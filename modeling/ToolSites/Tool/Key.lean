import ToolSites.Text.Quoted
/-!
# Keys

A key names an installation by its type and its name within the type, as
`type@name`. The first separator ends the type, so a name may hold separators and
a type may not. Either half may be empty.
-/

namespace ToolSites

/-- The type and the name of an installation. -/
structure Key where
  typeId : String
  name : String
  /-- The type holds no separator. -/
  separator_free : '@' ∉ typeId.toList
  deriving DecidableEq

namespace Key

/-- The text of a key with these halves. -/
def textOf (typeId name : String) : String := typeId ++ "@" ++ name

/-- The text of the key. -/
def text (k : Key) : String := textOf k.typeId k.name

/-- The key with these halves, unless the type holds a separator. -/
def of? (typeId name : String) : Option Key :=
  if h : '@' ∈ typeId.toList then none else some ⟨typeId, name, h⟩

theorem of?_eq_some {typeId name : String} {k : Key} :
    of? typeId name = some k ↔ k.typeId = typeId ∧ k.name = name := by
  obtain ⟨keyType, keyName, hfree⟩ := k
  unfold of?
  constructor
  · intro h
    split at h
    · cases h
    · cases h
      exact ⟨rfl, rfl⟩
  · rintro ⟨rfl, rfl⟩
    exact dif_neg hfree

end Key

/-! ## Splitting at a separator -/

section Splitting

variable {α : Type} [BEq α] [LawfulBEq α] {separator : α}

theorem not_mem_takeWhile (separator : α) (l : List α) : separator ∉ l.takeWhile (· != separator) := by
  induction l with
  | nil => exact List.not_mem_nil
  | cons a rest ih =>
    rw [List.takeWhile_cons]
    split
    · next h =>
      rw [List.mem_cons, not_or]
      exact ⟨Ne.symm (bne_iff_ne.1 h), ih⟩
    · exact List.not_mem_nil

theorem takeWhile_append_separator {before : List α} (h : separator ∉ before) (after : List α) :
    (before ++ separator :: after).takeWhile (· != separator) = before := by
  induction before with
  | nil => simp
  | cons a rest ih =>
    simp only [List.mem_cons, not_or] at h
    simp [Ne.symm h.1, ih h.2]

theorem dropWhile_append_separator {before : List α} (h : separator ∉ before) (after : List α) :
    (before ++ separator :: after).dropWhile (· != separator) = separator :: after := by
  induction before with
  | nil => simp
  | cons a rest ih =>
    simp only [List.mem_cons, not_or] at h
    simp [Ne.symm h.1, ih h.2]

/-- What is dropped begins with the separator. -/
theorem append_of_dropWhile {l after : List α} {a : α} (h : l.dropWhile (· != separator) = a :: after) :
    l = l.takeWhile (· != separator) ++ separator :: after := by
  have ha : a = separator := by
    have hhead := List.head?_dropWhile_not (· != separator) l
    rw [h] at hhead
    simpa using hhead
  conv => lhs; rw [← List.takeWhile_append_dropWhile (p := (· != separator)) (l := l), h, ha]

end Splitting

/-! ## Reading -/

/-- A text that is no key, because it has no separator. -/
structure KeyFault where
  text : String
  deriving DecidableEq, Repr

/-- The separator as messages show it. -/
def quotedSeparator : String := Text.quoted "@"

/-- That a key has no separator; it is given between its quotes. -/
def malformedKeyMessage (quoted : String) : String :=
  "tool location key " ++ quoted ++ " has no " ++ quotedSeparator ++ " separator"

/-- The fault in words. -/
def KeyFault.message (fault : KeyFault) : String := malformedKeyMessage (Text.quoted fault.text)

/-- The key that the text writes. -/
def Key.parse (s : String) : Except KeyFault Key :=
  match s.toList.dropWhile (· != '@') with
  | [] => .error ⟨s⟩
  | _ :: name =>
    .ok {
      typeId := .ofList (s.toList.takeWhile (· != '@'))
      name := .ofList name
      separator_free := by simpa using not_mem_takeWhile '@' s.toList }

namespace Key

theorem toList_text (k : Key) : k.text.toList = k.typeId.toList ++ '@' :: k.name.toList := by
  simp [text, textOf]

/-- A key reads back from its text. -/
theorem parse_text (k : Key) : parse k.text = .ok k := by
  have hs := toList_text k
  generalize k.text = s at hs
  unfold parse
  split
  · next he => rw [hs, dropWhile_append_separator k.separator_free] at he; cases he
  · next he =>
    rw [hs, dropWhile_append_separator k.separator_free] at he
    injection he with _ hname
    simp only [hs, takeWhile_append_separator k.separator_free, ← hname, String.ofList_toList]

/-- What reads as a key is the text of that key. -/
theorem text_of_parse {s : String} {k : Key} (h : parse s = .ok k) : k.text = s := by
  unfold parse at h
  split at h
  · cases h
  · next c name hd =>
    injection h with h
    subst h
    rw [← String.toList_inj, toList_text]
    simp only [String.toList_ofList]
    exact (append_of_dropWhile hd).symm

end Key

end ToolSites
