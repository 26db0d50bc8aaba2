namespace VirtualLink

/-- Drops so many bytes from the front; `none` if the place is inside a character or behind the end. -/
def dropBytes? (count : Nat) : List Char → Option (List Char)
  | [] => if count = 0 then some [] else none
  | c :: rest =>
    if count = 0 then some (c :: rest)
    else if c.utf8Size ≤ count then dropBytes? (count - c.utf8Size) rest
    else none

/-- Takes so many bytes from the front; `none` if the place is inside a character or behind the end. -/
def takeBytes? (count : Nat) : List Char → Option (List Char)
  | [] => if count = 0 then some [] else none
  | c :: rest =>
    if count = 0 then some []
    else if c.utf8Size ≤ count then (takeBytes? (count - c.utf8Size) rest).map (c :: ·)
    else none

/-- What is taken and what is left make up the text. -/
theorem append_of_takeBytes? {count : Nat} {text front back : List Char} (taken : takeBytes? count text = some front)
    (left : dropBytes? count text = some back) : front ++ back = text := by
  induction text generalizing count front with
  | nil => simp_all [takeBytes?, dropBytes?]
  | cons c rest ih =>
    simp only [takeBytes?, dropBytes?] at taken left
    split at taken
    · simp_all
    · split at taken
      · obtain ⟨part, atPart, rfl⟩ := Option.map_eq_some_iff.mp taken
        have same : part ++ back = rest := ih atPart (by simp_all)
        simp [same]
      · simp at taken

end VirtualLink
