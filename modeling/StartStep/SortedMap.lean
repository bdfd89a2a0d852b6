/-!
# Maps kept in key order

A map is the list of its entries in strictly increasing key order. The order
is part of the type, so two maps with the same entries are the same map, and
whatever lists the entries lists them in key order.
-/

namespace StartStep

/-- Entries stand in strictly increasing key order. -/
def KeysIncrease {κ ν : Type} [Ord κ] (entries : List (κ × ν)) : Prop :=
  entries.Pairwise fun a b => compare a.1 b.1 = .lt

/-- Sets the value of a key in a list of entries in key order. -/
def insertEntry {κ ν : Type} [Ord κ] (k : κ) (v : ν) : List (κ × ν) → List (κ × ν)
  | [] => [(k, v)]
  | (k', v') :: rest =>
      match compare k k' with
      | .lt => (k, v) :: (k', v') :: rest
      | .eq => (k, v) :: rest
      | .gt => (k', v') :: insertEntry k v rest

theorem mem_insertEntry {κ ν : Type} [Ord κ] {k : κ} {v : ν} {e : κ × ν} :
    ∀ {entries : List (κ × ν)}, e ∈ insertEntry k v entries → e = (k, v) ∨ e ∈ entries
  | [], h => by simpa [insertEntry] using h
  | (k', v') :: rest, h => by
      unfold insertEntry at h
      split at h
      · simpa using h
      · rcases List.mem_cons.1 h with h | h
        · exact .inl h
        · exact .inr (List.mem_cons_of_mem _ h)
      · rcases List.mem_cons.1 h with h | h
        · exact .inr (h ▸ List.mem_cons_self)
        · rcases mem_insertEntry h with h | h
          · exact .inl h
          · exact .inr (List.mem_cons_of_mem _ h)

theorem keysIncrease_insertEntry {κ ν : Type} [Ord κ] [Std.TransOrd κ] [Std.LawfulEqOrd κ]
    (k : κ) (v : ν) :
    ∀ {entries : List (κ × ν)}, KeysIncrease entries → KeysIncrease (insertEntry k v entries)
  | [], _ => List.pairwise_singleton ..
  | (k', v') :: rest, h => by
      have ⟨hhead, hrest⟩ := List.pairwise_cons.1 h
      unfold insertEntry
      split
      · next hlt =>
          refine List.pairwise_cons.2 ⟨fun e he => ?_, h⟩
          rcases List.mem_cons.1 he with rfl | he
          · exact hlt
          · exact Std.TransCmp.lt_trans hlt (hhead e he)
      · next heq =>
          have hk : k = k' := Std.LawfulEqOrd.eq_of_compare heq
          exact List.pairwise_cons.2 ⟨fun e he => hk ▸ hhead e he, hrest⟩
      · next hgt =>
          refine List.pairwise_cons.2 ⟨fun e he => ?_, keysIncrease_insertEntry k v hrest⟩
          rcases mem_insertEntry he with rfl | he
          · exact Std.OrientedCmp.lt_of_gt hgt
          · exact hhead e he

/-- A finite map, its entries in strictly increasing key order. -/
structure SortedMap (κ ν : Type) [Ord κ] where
  entries : List (κ × ν)
  increasing : KeysIncrease entries

namespace SortedMap

variable {κ ν : Type} [Ord κ]

def empty : SortedMap κ ν := ⟨[], List.Pairwise.nil⟩

instance : Inhabited (SortedMap κ ν) := ⟨empty⟩

/-- The value of a key. -/
def get? (m : SortedMap κ ν) (k : κ) : Option ν :=
  (m.entries.find? fun e => compare e.1 k == .eq).map (·.2)

/-- Sets the value of a key, replacing an earlier one. -/
def insert [Std.TransOrd κ] [Std.LawfulEqOrd κ] (m : SortedMap κ ν) (k : κ) (v : ν) :
    SortedMap κ ν :=
  ⟨insertEntry k v m.entries, keysIncrease_insertEntry k v m.increasing⟩

/-- The map of a list of entries; of two with one key the later counts. -/
def ofList [Std.TransOrd κ] [Std.LawfulEqOrd κ] (entries : List (κ × ν)) : SortedMap κ ν :=
  entries.foldl (fun m e => m.insert e.1 e.2) empty

/-- The values in key order. -/
def values (m : SortedMap κ ν) : List ν := m.entries.map (·.2)

/-- The number of keys. -/
def size (m : SortedMap κ ν) : Nat := m.entries.length

def isEmpty (m : SortedMap κ ν) : Bool := m.entries.isEmpty

end SortedMap

/-- Sorted text without repetitions. -/
def sortedSet (items : List String) : List String :=
  (SortedMap.ofList (items.map fun s => (s, ()))).entries.map (·.1)

end StartStep
