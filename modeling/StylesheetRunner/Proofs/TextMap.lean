import Mathlib.Data.List.Pairwise
import Mathlib.Data.List.Perm.Basic
import StylesheetRunner.TextMap

/-!
A map is built from its entries in any order.
-/

namespace StylesheetRunner.TextMap

def Apart (first second : String × String) : Prop := first.1 ≠ second.1

theorem insertEntry_perm {key value : String} {entries : List (String × String)}
    (absent : ∀ entry ∈ entries, Apart (key, value) entry) :
    (insertEntry key value entries).Perm ((key, value) :: entries) := by
  induction entries with
  | nil => exact .refl _
  | cons first rest ih =>
    obtain ⟨apart, later⟩ := List.forall_mem_cons.mp absent
    unfold insertEntry
    rw [if_neg (show ¬ key = first.1 from apart)]
    split
    next => exact .refl _
    next => exact ((ih later).cons first).trans (.swap _ _ _)

theorem foldl_insert_perm (entries : List (String × String)) (map : TextMap)
    (distinct : (map.entries ++ entries).Pairwise Apart) :
    (entries.foldl (fun map entry => map.insert entry.1 entry.2) map).entries.Perm
      (map.entries ++ entries) := by
  induction entries generalizing map with
  | nil => rw [List.append_nil]; exact .refl _
  | cons entry entries ih =>
    have apart : ∀ other ∈ map.entries, Apart entry other := fun other member =>
      ((List.pairwise_append.mp distinct).2.2 other member entry List.mem_cons_self).symm
    have inserted : (map.insert entry.1 entry.2).entries.Perm (entry :: map.entries) :=
      insertEntry_perm apart
    have moved : ((map.insert entry.1 entry.2).entries ++ entries).Perm
        (map.entries ++ entry :: entries) :=
      (inserted.append_right entries).trans List.perm_middle.symm
    exact (ih _ ((moved.pairwise_iff fun apart => Ne.symm apart).mpr distinct)).trans moved

theorem ofList_of_perm {entries : List (String × String)} {map : TextMap}
    (same : entries.Perm map.entries) : ofList entries = map := by
  have distinct : map.entries.Pairwise Apart :=
    map.ascending.imp fun less => String.ne_of_lt less
  have built := foldl_insert_perm entries empty
    ((same.pairwise_iff fun apart => Ne.symm apart).mpr distinct)
  have equal : (ofList entries).entries = map.entries :=
    (built.trans same).eq_of_pairwise (fun first second _ _ less greater =>
      absurd (String.lt_trans less greater) (String.lt_irrefl _)) (ofList entries).ascending
      map.ascending
  cases map
  cases built_map : ofList entries
  rw [built_map] at equal
  subst equal
  rfl

theorem index_eq_of_key {map : TextMap} {first second : Nat} {key value other : String}
    (here : map.entries[first]? = some (key, value))
    (there : map.entries[second]? = some (key, other)) : first = second := by
  have distinct : (map.entries.map Prod.fst).Nodup :=
    List.nodup_iff_pairwise_ne.mpr (List.pairwise_map.mpr (map.ascending.imp String.ne_of_lt))
  have bound := (List.getElem?_eq_some_iff.mp here).1
  refine (List.getElem?_inj (by simpa using bound) distinct).mp ?_
  rw [List.getElem?_map, List.getElem?_map, here, there]
  rfl

end StylesheetRunner.TextMap
