namespace VirtualLink

/-- The stretches between the separators: one more than there are separators, any of them possibly empty. -/
def fields (separator : Char) : List Char → List (List Char)
  | [] => [[]]
  | c :: rest =>
    if c = separator then [] :: fields separator rest
    else
      match fields separator rest with
      | [] => [[c]]
      | field :: more => (c :: field) :: more

theorem fields_ne_nil (separator : Char) (text : List Char) : fields separator text ≠ [] := by
  cases text with
  | nil => simp [fields]
  | cons c rest =>
    simp only [fields]
    split
    · simp
    · split <;> simp

theorem length_fields (separator : Char) (text : List Char) :
    (fields separator text).length = text.count separator + 1 := by
  induction text with
  | nil => rfl
  | cons c rest ih =>
    simp only [fields]
    split
    · next here => simp [here, ih]
    · next other =>
      cases tail : fields separator rest with
      | nil => exact absurd tail (fields_ne_nil separator rest)
      | cons field more => simp_all

/-- How many bytes a text takes in UTF-8. -/
def byteWidth : List Char → Nat
  | [] => 0
  | c :: rest => c.utf8Size + byteWidth rest

end VirtualLink
