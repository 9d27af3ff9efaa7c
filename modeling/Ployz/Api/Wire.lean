import Ployz.Base.OrdMap

/-!
# Go collections on a JSON boundary

`GoSlice` and `GoMap` keep apart a nil collection and an empty one, and their equality sees
the difference. The code can build a nil collection only by default or from JSON `null`, so
a nil collection holds nothing; the structures here carry that as a field.
-/

namespace Ployz.Api

/-- `wire::GoSlice<T>`. -/
structure GoSlice (α : Type) where
  /-- Whether the Go value is `nil`. -/
  nil : Bool
  values : List α
  nil_empty : nil = true → values = []
deriving DecidableEq

namespace GoSlice

variable {α β : Type}

/-- `GoSlice::default`: the nil slice. -/
def default : GoSlice α := ⟨true, [], fun _ => rfl⟩

instance : Inhabited (GoSlice α) := ⟨default⟩

/-- `From<Vec<T>>`: a non-nil slice. -/
def ofList (values : List α) : GoSlice α := ⟨false, values, fun nil => by contradiction⟩

/-- `make_non_nil`, followed by an in-place change of every element. -/
def makeNonNil (change : α → α) (slice : GoSlice α) : GoSlice α :=
  ofList (slice.values.map change)

end GoSlice

/-- `wire::GoMap<K, V>`, at the string keys the modelled code uses. -/
structure GoMap (ν : Type) where
  /-- Whether the Go value is `nil`. -/
  nil : Bool
  values : OrdMap String ν
  nil_empty : nil = true → values = ∅
deriving DecidableEq

namespace GoMap

variable {ν : Type}

/-- `GoMap::default`: the nil map. -/
def default : GoMap ν := ⟨true, ∅, fun _ => rfl⟩

instance : Inhabited (GoMap ν) := ⟨default⟩

/-- `From<BTreeMap<K, V>>`: a non-nil map. -/
def ofMap (values : OrdMap String ν) : GoMap ν := ⟨false, values, fun nil => by contradiction⟩

def makeNonNil (map : GoMap ν) : GoMap ν := ofMap map.values

end GoMap

end Ployz.Api
