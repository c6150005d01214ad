import DiceBot.Proofs.Storage.Locate

namespace DiceBot.Storage.Tree

variable {t t' : Tree} {p : Path} {content : Bytes}

/-- The last name of a path is to be made in a directory that is there. -/
structure IsParent (t : Tree) (p : Path) (name : String) (parent : Location)
    (children : List (String × Entry)) : Prop where
  size_le : p.size ≤ pathLimit
  leads : t.Leads [] (t.start p ++ p.names.dropLast) parent
  get?_eq : t.get? parent = some (.directory children)
  getLast?_eq : p.names.getLast? = some name
  isDots_eq_false : isDots name = false
  nameSize_le : name.utf8ByteSize ≤ nameLimit

variable {name : String} {parent : Location} {children : List (String × Entry)}

theorem isParent_of_followToParent {child? : Option Entry}
    (hparent : t.followToParent p = .ok (parent, children)) (hlast : p.names.getLast? = some name)
    (hdots : isDots name = false) (hchild : childNamed? children name = .ok child?) :
    t.IsParent p name parent children ∧ children.lookup name = child? := by
  obtain ⟨⟨e, outer⟩, hplace, hparent⟩ := exists_of_bind_eq_ok hparent
  obtain ⟨hsize, hin, hway⟩ := follow_sound hplace
  obtain ⟨hname, hlookup⟩ := childNamed?_eq_ok hchild
  cases e with
  | file content => cases hparent
  | directory inside =>
    cases hparent
    exact ⟨⟨hsize, hway, hin.get?_location, hlast, hdots, hname⟩, hlookup⟩

theorem IsParent.kind?_eq (h : t.IsParent p name parent children) :
    t.kind? parent = some .directory := by
  rw [kind?_eq_map, h.get?_eq]
  rfl

theorem IsParent.kind?_child (h : t.IsParent p name parent children) :
    t.kind? (parent ++ [name]) = (children.lookup name).map Entry.kind := by
  rw [kind?_eq_map, get?_child h.get?_eq]

/-- What is made there is what the path names from then on; only a directory may be named with a
slash at the end. -/
theorem IsParent.at_child (h : t.IsParent p name parent children) (hext : t.Extends t')
    {kind : Kind} (hkind : t'.kind? (parent ++ [name]) = some kind)
    (hslash : p.endsWithSlash = true → kind = .directory) : t'.At p (parent ++ [name]) := by
  have hnames : p.names = p.names.dropLast ++ [name] :=
    (List.dropLast_append_getLast? name h.getLast?_eq).symm
  have hdots : name ≠ "." ∧ name ≠ ".." := by simpa [isDots] using h.isDots_eq_false
  have hlast : t'.Leads parent [name] (parent ++ [name]) :=
    .down hdots.1 hdots.2 h.nameSize_le (hext.kind?_eq h.kind?_eq) (by simp [hkind]) (.stop _)
  have hall : t'.Leads [] (t'.start p ++ p.names) (parent ++ [name]) := by
    rw [hnames, ← List.append_assoc, hext.start_eq]
    exact (h.leads.mono hext).append hlast
  refine ⟨?_, h.size_le, ?_⟩
  · rw [Bool.eq_false_iff]
    intro hhere
    simp [Path.names_eq_nil_of_isHere hhere] at hnames
  · rw [Path.steps]
    split
    · rename_i hends
      rw [← List.append_assoc]
      exact hall.append (.stay (hslash hends ▸ hkind) (.stop _))
    · exact hall

theorem makeDirectory_eq_ok (h : t.makeDirectory p = .ok t') :
    ∃ name parent children, t.IsParent p name parent children ∧ children.lookup name = none ∧
      t' = t.set (parent ++ [name]) (.directory []) := by
  obtain ⟨⟨parent, children⟩, hfollow, h⟩ := exists_of_bind_eq_ok h
  cases hlast : p.names.getLast? with
  | none =>
    simp only [hlast] at h
    cases h
  | some name =>
    cases hdots : isDots name with
    | true =>
      simp only [hlast, hdots] at h
      cases h
    | false =>
      simp only [hlast, hdots] at h
      obtain ⟨child?, hchild, h⟩ := exists_of_bind_eq_ok h
      obtain ⟨hparent, hlookup⟩ := isParent_of_followToParent hfollow hlast hdots hchild
      cases child? with
      | some child => cases h
      | none => exact ⟨name, parent, children, hparent, hlookup, (Except.ok.inj h).symm⟩

theorem makeDirectory_adds (h : t.makeDirectory p = .ok t') :
    ∃ l, t.Adds l .directory t' ∧ t'.At p l := by
  obtain ⟨name, parent, children, hparent, hfree, rfl⟩ := makeDirectory_eq_ok h
  have hadds := adds_set (.directory []) hparent.get?_eq hfree rfl
  exact ⟨_, hadds, hparent.at_child hadds.toExtends hadds.kind?_self fun _ => rfl⟩

theorem write_eq_ok (h : t.write p content = .ok t') :
    ∃ name parent children, t.IsParent p name parent children ∧ p.endsWithSlash = false ∧
      t' = t.set (parent ++ [name]) (.file content) := by
  obtain ⟨⟨parent, children⟩, hfollow, h⟩ := exists_of_bind_eq_ok h
  cases hlast : p.names.getLast? with
  | none =>
    simp only [hlast] at h
    cases h
  | some name =>
    cases hends : p.endsWithSlash || isDots name with
    | true =>
      simp only [hlast, hends] at h
      cases h
    | false =>
      simp only [hlast, hends] at h
      obtain ⟨hslash, hdots⟩ := Bool.or_eq_false_iff.mp hends
      obtain ⟨child?, hchild, h⟩ := exists_of_bind_eq_ok h
      have hparent := (isParent_of_followToParent hfollow hlast hdots hchild).1
      refine ⟨name, parent, children, hparent, hslash, ?_⟩
      split at h
      · cases h
      · exact (Except.ok.inj h).symm

theorem write_adds (habsent : t.isPresent p = false) (h : t.write p content = .ok t') :
    ∃ l, t.Adds l (.file content) t' ∧ t'.At p l := by
  obtain ⟨name, parent, children, hparent, hslash, rfl⟩ := write_eq_ok h
  -- a file of that name is one that the path would name
  have hfree : children.lookup name = none := by
    rw [Option.eq_none_iff_forall_ne_some]
    rintro child hchild
    have hkind : t.kind? (parent ++ [name]) = some child.kind := by
      simp [hparent.kind?_child, hchild]
    have hat := hparent.at_child .rfl hkind (by simp [hslash])
    simp [isPresent_iff.mpr ⟨_, hat⟩] at habsent
  have hadds := adds_set (.file content) hparent.get?_eq hfree trivial
  exact ⟨_, hadds, hparent.at_child hadds.toExtends hadds.kind?_self (by simp [hslash])⟩

end DiceBot.Storage.Tree
