import DiceBot.Proofs.Toml.Document
import DiceBot.Settings.Source

namespace DiceBot

namespace Setting

theorem nodup_all : all.Nodup := by
  decide

theorem mem_all (s : Setting) : s ∈ all := by
  cases s <;> decide

theorem name_injective : Function.Injective name := by
  intro s s' h
  cases s <;> cases s' <;> first | rfl | exact absurd h (by decide)

theorem toList_name_ne_nil (s : Setting) : s.name.toList ≠ [] := by
  cases s <;> decide

theorem isKeyChar_of_mem_name (s : Setting) : ∀ c ∈ s.name.toList, Toml.isKeyChar c = true :=
  List.all_eq_true.mp (by cases s <;> decide)

theorem isPlain_of_mem_default (s : Setting) : ∀ c ∈ s.default.toList, Toml.isPlain c = true :=
  List.all_eq_true.mp (by cases s <;> decide)

end Setting

namespace Configuration

open Toml

def settingEntry (f : Setting → String) (s : Setting) : String × String :=
  (s.name, f s)

theorem toList_fileText (f : Setting → String) :
    (fileText f).toList = (Setting.all.map (settingEntry f)).flatMap entryLine := by
  simp [fileText, settingEntry, entryLine, List.flatMap_map]

theorem isEntry_settingEntry {f : Setting → String} {s : Setting}
    (hf : ∀ c ∈ (f s).toList, isPlain c = true) : IsEntry (settingEntry f s) where
  key_ne_nil := s.toList_name_ne_nil
  isKeyChar_of_mem := s.isKeyChar_of_mem_name
  isPlain_of_mem := hf

/-- A file with a line for every setting says what each of them is, and nothing else. -/
theorem read?_fileText {f : Setting → String} (hf : ∀ s, ∀ c ∈ (f s).toList, isPlain c = true) :
    Toml.read? (fileText f) = some (Setting.all.map fun s => (s.name, .string (f s))) := by
  have hentries : ∀ e ∈ Setting.all.map (settingEntry f), IsEntry e := by
    intro e he
    obtain ⟨s, -, rfl⟩ := List.mem_map.mp he
    exact isEntry_settingEntry (hf s)
  have hnodup : ((Setting.all.map (settingEntry f)).map (·.1)).Nodup := by
    rw [List.map_map]
    exact Setting.nodup_all.map Setting.name_injective
  rw [read?_flatMap_entryLine hentries hnodup (toList_fileText f), List.map_map]
  rfl

theorem read?_template :
    Toml.read? template = some (Setting.all.map fun s => (s.name, .string s.default)) :=
  read?_fileText Setting.isPlain_of_mem_default

theorem inTable?_map (f : Setting → String) (s : Setting) :
    inTable? (Setting.all.map fun s => (s.name, .string (f s))) s = some (f s) := by
  have hget : Entries.get? (Setting.all.map fun s => (s.name, .string (f s))) s.name =
      some (.string (f s)) :=
    get?_map_of_injective Setting.name_injective (fun s => .string (f s)) s.mem_all
  rw [inTable?, hget]

theorem ofSettings?_some (f : Setting → String) :
    ofSettings? (fun s => some (f s)) = some (ofSettings f) :=
  rfl

theorem ofToml?_template : ofToml? template = some default := by
  rw [ofToml?, read?_template, Option.bind_eq_bind, Option.bind_some,
    funext (inTable?_map Setting.default), ofSettings?_some, default]

end Configuration

end DiceBot
