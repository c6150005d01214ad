import DiceBot.Json.Codec
import DiceBot.Proofs.Json.Integer
import DiceBot.Proofs.Json.Reading
import DiceBot.Proofs.Json.Text

namespace DiceBot.Json

theorem isSpelled_itemTokens {items : List Json} (h : ∀ v ∈ items, v.IsSpelled) :
    ∀ t ∈ itemTokens items, t.IsSpelled := by
  induction items with
  | nil => simp [itemTokens]
  | cons v vs ih =>
    obtain ⟨hv, hvs⟩ := List.forall_mem_cons.mp h
    cases vs with
    | nil => exact hv
    | cons w ws =>
      rw [itemTokens_cons_cons, List.forall_mem_append, List.forall_mem_cons]
      exact ⟨hv, trivial, ih hvs⟩

theorem isSpelled_array {items : List Json} (h : ∀ v ∈ items, v.IsSpelled) :
    (array items).IsSpelled := by
  rw [IsSpelled, tokens, List.forall_mem_cons, List.forall_mem_append, List.forall_mem_singleton]
  exact ⟨trivial, isSpelled_itemTokens h, trivial⟩

theorem isSpelled_memberTokens {members : List Member}
    (h : ∀ m ∈ members, (Token.string m.1).IsSpelled ∧ m.2.IsSpelled) :
    ∀ t ∈ memberTokens members, t.IsSpelled := by
  induction members with
  | nil => simp [memberTokens]
  | cons m ms ih =>
    obtain ⟨⟨hk, hv⟩, hms⟩ := List.forall_mem_cons.mp h
    cases ms with
    | nil =>
      rw [memberTokens, List.forall_mem_cons, List.forall_mem_cons]
      exact ⟨hk, trivial, hv⟩
    | cons n ns =>
      rw [memberTokens_cons_cons, List.forall_mem_cons, List.forall_mem_cons,
        List.forall_mem_append, List.forall_mem_cons]
      exact ⟨hk, trivial, hv, trivial, ih hms⟩

theorem isSpelled_object {members : List Member}
    (h : ∀ m ∈ members, (Token.string m.1).IsSpelled ∧ m.2.IsSpelled) :
    (object members).IsSpelled := by
  rw [IsSpelled, tokens, List.forall_mem_cons, List.forall_mem_append, List.forall_mem_singleton]
  exact ⟨trivial, isSpelled_memberTokens h, trivial⟩

namespace Codec

variable {α β : Type} {c : Codec α} {P : α → Prop} {Q : β → Prop}

/-- Every value that satisfies `P` is read as it was written, and no other is ever read. -/
structure Lawful (c : Codec α) (P : α → Prop) : Prop where
  read_write : ∀ {a}, P a → c.read (c.write a) = some a
  holds : ∀ {v a}, c.read v = some a → P a
  isSpelled : ∀ a, (c.write a).IsSpelled
  write_ne_null : ∀ a, c.write a ≠ .null

theorem Lawful.decode?_encode (h : c.Lawful P) {a : α} (ha : P a) :
    c.decode? (c.encode a) = some a := by
  rw [decode?, encode, read?_write (h.isSpelled a)]
  exact h.read_write ha

theorem Lawful.of_decode? (h : c.Lawful P) {bs : Bytes} {a : α} (ha : c.decode? bs = some a) :
    P a := by
  obtain ⟨v, -, hv⟩ := Option.bind_eq_some_iff.mp ha
  exact h.holds hv

theorem Lawful.map (h : c.Lawful P) {f : α → β} {g : β → α} (hfg : ∀ b, Q b → f (g b) = b)
    (hP : ∀ b, Q b → P (g b)) (hQ : ∀ a, P a → Q (f a)) : (c.map f g).Lawful Q where
  read_write {b} hb := by
    change (c.read (c.write (g b))).map f = some b
    rw [h.read_write (hP b hb), Option.map_some, hfg b hb]
  holds {v b} hv := by
    obtain ⟨a, ha, rfl⟩ := Option.map_eq_some_iff.mp hv
    exact hQ a (h.holds ha)
  isSpelled b := h.isSpelled (g b)
  write_ne_null b := h.write_ne_null (g b)

theorem Lawful.of_mapM_read (h : c.Lawful P) {items : List Json} {as : List α}
    (has : items.mapM c.read = some as) : ∀ a ∈ as, P a := by
  induction items generalizing as with
  | nil =>
    cases has
    simp
  | cons v vs ih =>
    rw [List.mapM_cons] at has
    obtain ⟨b, hb, has⟩ := Option.bind_eq_some_iff.mp has
    obtain ⟨bs, hbs, has⟩ := Option.bind_eq_some_iff.mp has
    cases has
    exact List.forall_mem_cons.mpr ⟨h.holds hb, ih hbs⟩

theorem Lawful.list (h : c.Lawful P) : c.list.Lawful fun as => ∀ a ∈ as, P a where
  read_write {as} has := by
    induction as with
    | nil => rfl
    | cons a as ih =>
      obtain ⟨ha, has⟩ := List.forall_mem_cons.mp has
      have hread : (as.map c.write).mapM c.read = some as := ih has
      simp only [Codec.list, List.map_cons, List.mapM_cons, h.read_write ha, hread]
      rfl
  holds {v as} hv := by
    cases v with
    | array items => exact h.of_mapM_read hv
    | _ => cases hv
  isSpelled as := by
    apply isSpelled_array
    rw [List.forall_mem_map]
    exact fun a _ => h.isSpelled a
  write_ne_null _ h := by cases h

theorem text_lawful : text.Lawful fun _ => True where
  read_write _ := toString?_ofString _
  holds _ := trivial
  isSpelled s t ht := by
    cases List.mem_singleton.mp ht
    exact isSpelled_escape s.toList
  write_ne_null _ h := by cases h

theorem lawful_of_integer {n : α → Int} {f : Int → α} {low high : Int}
    (hlow : ∀ a, low ≤ n a) (hhigh : ∀ a, n a ≤ high) (hf : ∀ a, f (n a) = a) :
    Lawful ⟨fun v => (integer? low high v).map f, fun a => Json.ofInt (n a)⟩ fun _ => True where
  read_write {a} _ := by
    change (integer? low high (Json.ofInt (n a))).map f = some a
    rw [integer?_ofInt (hlow a) (hhigh a), Option.map_some, hf]
  holds _ := trivial
  isSpelled a := isSpelled_ofInt (n a)
  write_ne_null _ h := by cases h

theorem int32_lawful : int32.Lawful fun _ => True :=
  lawful_of_integer Int32.le_toInt (fun a => Int.le_sub_one_of_lt a.toInt_lt) Int32.ofInt_toInt

theorem int64_lawful : int64.Lawful fun _ => True :=
  lawful_of_integer Int64.le_toInt (fun a => Int.le_sub_one_of_lt a.toInt_lt) Int64.ofInt_toInt

theorem uint32_lawful : uint32.Lawful fun _ => True :=
  lawful_of_integer (fun a => Int.natCast_nonneg a.toNat)
    (fun a => Int.le_sub_one_of_lt (Int.ofNat_lt.mpr a.toNat_lt_size)) fun _ => UInt32.ofNat_toNat

theorem uint64_lawful : uint64.Lawful fun _ => True :=
  lawful_of_integer (fun a => Int.natCast_nonneg a.toNat)
    (fun a => Int.le_sub_one_of_lt (Int.ofNat_lt.mpr a.toNat_lt_size)) fun _ => UInt64.ofNat_toNat

end Codec

end DiceBot.Json
