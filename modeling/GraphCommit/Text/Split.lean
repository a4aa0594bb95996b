/-!
# Splitting texts

A text is split at every separator, so that it is what joining its parts gives
(`joinOn_splitOn`).
-/

namespace GraphCommit.Text

/-- The texts between the characters that are separators. -/
def splitBy (isSeparator : Char → Bool) : List Char → List (List Char)
  | [] => [[]]
  | c :: rest =>
    if isSeparator c then [] :: splitBy isSeparator rest
    else
      match splitBy isSeparator rest with
      | [] => [[c]]
      | part :: parts => (c :: part) :: parts

/-- The texts between the separators. -/
def splitOn (separator : Char) (text : List Char) : List (List Char) :=
  splitBy (· == separator) text

/-- The texts with a separator between any two. -/
def joinOn (separator : Char) : List (List Char) → List Char
  | [] => []
  | [part] => part
  | part :: rest => part ++ separator :: joinOn separator rest

theorem splitBy_ne_nil (isSeparator : Char → Bool) (text : List Char) :
    splitBy isSeparator text ≠ [] := by
  cases text with
  | nil => simp [splitBy]
  | cons c rest =>
    unfold splitBy
    split
    · simp
    · split <;> simp

/-- Joining undoes splitting. -/
theorem joinOn_splitOn (separator : Char) (text : List Char) :
    joinOn separator (splitOn separator text) = text := by
  induction text with
  | nil => rfl
  | cons c rest ih =>
    unfold splitOn at ih ⊢
    unfold splitBy
    have hne := splitBy_ne_nil (· == separator) rest
    split
    · next h =>
      have hc : c = separator := by simpa using h
      cases hparts : splitBy (· == separator) rest with
      | nil => exact absurd hparts hne
      | cons part parts => rw [hparts] at ih; simp [joinOn, ih, hc]
    · cases hparts : splitBy (· == separator) rest with
      | nil => exact absurd hparts hne
      | cons part parts =>
        rw [hparts] at ih
        cases parts <;> simp_all [joinOn]

theorem splitOn_append (separator : Char) (front back : List Char) :
    splitOn separator (front ++ separator :: back) =
      splitOn separator front ++ splitOn separator back := by
  induction front with
  | nil => simp [splitOn, splitBy]
  | cons c rest ih =>
    simp only [splitOn, List.cons_append, splitBy] at ih ⊢
    rw [ih]
    split
    · rfl
    · cases hparts : splitBy (· == separator) rest with
      | nil => exact absurd hparts (splitBy_ne_nil _ rest)
      | cons part parts => rfl

theorem splitOn_of_not_mem {separator : Char} {text : List Char} (htext : separator ∉ text) :
    splitOn separator text = [text] := by
  induction text with
  | nil => rfl
  | cons c rest ih =>
    have hc : c ≠ separator := (List.ne_of_not_mem_cons htext).symm
    have hsplit := ih (List.not_mem_of_not_mem_cons htext)
    simp only [splitOn] at hsplit
    simp [splitOn, splitBy, hsplit, hc]

end GraphCommit.Text
