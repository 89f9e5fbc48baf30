/-!
Finite maps from texts to texts, listed in ascending order of their keys. Two maps with the same
entries are the same map.
-/

namespace StylesheetRunner

structure TextMap where
  entries : List (String × String)
  ascending : entries.Pairwise fun left right => left.1 < right.1
deriving DecidableEq

namespace TextMap

instance : Repr TextMap := ⟨fun map precedence => reprPrec map.entries precedence⟩

def empty : TextMap := ⟨[], .nil⟩

instance : Inhabited TextMap := ⟨empty⟩

/-- Puts an entry into an ascending list at its place, instead of one with the same key. -/
def insertEntry (key value : String) : List (String × String) → List (String × String)
  | [] => [(key, value)]
  | entry :: rest =>
    if key < entry.1 then (key, value) :: entry :: rest
    else if key = entry.1 then (key, value) :: rest
    else entry :: insertEntry key value rest

theorem fst_mem_insertEntry {key value : String} {entry : String × String}
    {entries : List (String × String)} (member : entry ∈ insertEntry key value entries) :
    entry.1 = key ∨ entry ∈ entries := by
  induction entries with
  | nil => simp_all [insertEntry]
  | cons first rest ih =>
    simp only [insertEntry] at member
    split at member
    · rcases List.mem_cons.mp member with here | there
      · exact .inl (by rw [here])
      · exact .inr there
    · split at member
      · rcases List.mem_cons.mp member with here | there
        · exact .inl (by rw [here])
        · exact .inr (List.mem_cons_of_mem _ there)
      · rcases List.mem_cons.mp member with here | there
        · exact .inr (here ▸ List.mem_cons_self)
        · exact (ih there).imp_right (List.mem_cons_of_mem _)

theorem ascending_insertEntry (key value : String) {entries : List (String × String)}
    (ascending : entries.Pairwise fun left right => left.1 < right.1) :
    (insertEntry key value entries).Pairwise fun left right => left.1 < right.1 := by
  induction entries with
  | nil => simp [insertEntry]
  | cons first rest ih =>
    have parts := List.pairwise_cons.mp ascending
    simp only [insertEntry]
    split
    next smaller =>
      refine List.pairwise_cons.mpr ⟨fun entry member => ?_, ascending⟩
      rcases List.mem_cons.mp member with here | there
      · exact here ▸ smaller
      · exact String.lt_trans smaller (parts.1 entry there)
    next notSmaller =>
      split
      next same =>
        exact List.pairwise_cons.mpr ⟨fun entry member => same ▸ parts.1 entry member, parts.2⟩
      next different =>
        refine List.pairwise_cons.mpr ⟨fun entry member => ?_, ih parts.2⟩
        rcases fst_mem_insertEntry member with here | there
        · rw [here]
          exact Std.lt_of_le_of_ne (String.not_lt.mp notSmaller) fun equal => different equal.symm
        · exact parts.1 entry there

def insert (map : TextMap) (key value : String) : TextMap :=
  ⟨insertEntry key value map.entries, ascending_insertEntry key value map.ascending⟩

def ofList (entries : List (String × String)) : TextMap :=
  entries.foldl (fun map entry => map.insert entry.1 entry.2) empty

def find? (map : TextMap) (key : String) : Option String :=
  map.entries.lookup key

def size (map : TextMap) : Nat :=
  map.entries.length

end TextMap

end StylesheetRunner
