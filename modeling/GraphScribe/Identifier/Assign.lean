import GraphScribe.Identifier.Slug

/-!
# Distinct function names

Every step gets the slug of its name. Where that is taken already, the first free one of the slug
with the suffixes `_2`, `_3` and so on is used. Names are given out in order, so a later step never
changes the name of an earlier one.
-/

namespace GraphScribe

def suffixed (base : Text) (n : Nat) : Text := base ++ '_' :: decimal n

/-- The first of the suffixed names from `n` on that is not taken; `fuel` bounds the number of
taken ones. -/
def freeSuffixed (base : Text) (taken : List Text) : Nat → Nat → Text
  | 0, n => suffixed base n
  | fuel + 1, n =>
    if taken.contains (suffixed base n) then freeSuffixed base taken fuel (n + 1)
    else suffixed base n

/-- The name itself, or the first of its suffixed forms, that is not taken. -/
def freeName (base : Text) (taken : List Text) : Text :=
  -- one suffix more than there are names taken is enough
  if taken.contains base then freeSuffixed base taken taken.length 2 else base

/-- Names for some further steps when the names `taken` are given out already. -/
def assignAfter (taken : List Text) : List Text → List Text
  | [] => []
  | name :: rest =>
    let given := freeName (slug name) taken
    given :: assignAfter (given :: taken) rest

/-- The function names of steps with the given names. -/
def assignNames (names : List Text) : List Text := assignAfter [] names

theorem length_assignAfter (taken names : List Text) :
    (assignAfter taken names).length = names.length := by
  induction names generalizing taken with
  | nil => rfl
  | cons name rest ih => simp [assignAfter, ih]

end GraphScribe
