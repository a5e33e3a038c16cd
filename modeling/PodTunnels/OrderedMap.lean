/-!
# Maps ordered by key

A map from keys to values, kept as the list of its entries in increasing key order. No key occurs
twice, because the order is strict, so the list of entries is determined by what lookups answer:
two maps built in different orders with the same final contents are equal.
-/

namespace PodTunnels

/-- A finite map whose entries stand in increasing order of their keys. -/
structure OrderedMap (α β : Type) [Ord α] where
  entries : List (α × β)
  increasing : entries.Pairwise fun a b => compare a.1 b.1 = .lt

namespace OrderedMap

section Entries

variable {α β : Type} [Ord α]

/-- Put an entry into an increasing list, in the place of one with an equal key. -/
def insertEntry (k : α) (v : β) : List (α × β) → List (α × β)
  | [] => [(k, v)]
  | e :: es =>
    match compare k e.1 with
    | .lt => (k, v) :: e :: es
    | .eq => (k, v) :: es
    | .gt => e :: insertEntry k v es

theorem mem_insertEntry {k : α} {v : β} {x : α × β} {es : List (α × β)}
    (h : x ∈ insertEntry k v es) : x = (k, v) ∨ x ∈ es := by
  induction es with
  | nil => exact .inl (by simpa [insertEntry] using h)
  | cons e es ih =>
    unfold insertEntry at h
    split at h
    · simpa using h
    · rcases List.mem_cons.1 h with h | h
      · exact .inl h
      · exact .inr (List.mem_cons_of_mem _ h)
    · rcases List.mem_cons.1 h with h | h
      · exact .inr (h ▸ List.mem_cons_self)
      · rcases ih h with h | h
        · exact .inl h
        · exact .inr (List.mem_cons_of_mem _ h)

theorem increasing_insertEntry [Std.TransOrd α] (k : α) (v : β) {es : List (α × β)}
    (h : es.Pairwise fun a b => compare a.1 b.1 = .lt) :
    (insertEntry k v es).Pairwise fun a b => compare a.1 b.1 = .lt := by
  induction es with
  | nil => simp [insertEntry]
  | cons e es ih =>
    obtain ⟨he, hes⟩ := List.pairwise_cons.1 h
    unfold insertEntry
    split
    · rename_i hk
      refine List.pairwise_cons.2 ⟨fun x hx => ?_, h⟩
      rcases List.mem_cons.1 hx with rfl | hx
      · exact hk
      · exact Std.TransCmp.lt_trans hk (he x hx)
    · rename_i hk
      exact List.pairwise_cons.2
        ⟨fun x hx => Std.TransCmp.lt_of_eq_of_lt hk (he x hx), hes⟩
    · rename_i hk
      refine List.pairwise_cons.2 ⟨fun x hx => ?_, ih hes⟩
      rcases mem_insertEntry hx with rfl | hx
      · exact Std.OrientedCmp.gt_iff_lt.1 hk
      · exact he x hx

end Entries

variable {α β : Type} [Ord α]

def empty : OrderedMap α β :=
  ⟨[], .nil⟩

instance : EmptyCollection (OrderedMap α β) := ⟨empty⟩

instance : Inhabited (OrderedMap α β) := ⟨empty⟩

def get? (m : OrderedMap α β) (k : α) : Option β :=
  (m.entries.find? fun e => compare k e.1 == .eq).map Prod.snd

/-- The map with `k ↦ v`, in the place of what `k` had. -/
def insert [Std.TransOrd α] (m : OrderedMap α β) (k : α) (v : β) : OrderedMap α β :=
  ⟨insertEntry k v m.entries, increasing_insertEntry k v m.increasing⟩

def erase (m : OrderedMap α β) (k : α) : OrderedMap α β :=
  ⟨m.entries.filter fun e => compare k e.1 != .eq, m.increasing.filter _⟩

/-- The map that a list of entries builds up; of entries with equal keys the last one stays. -/
def ofList [Std.TransOrd α] (es : List (α × β)) : OrderedMap α β :=
  es.foldl (fun m e => m.insert e.1 e.2) empty

def keys (m : OrderedMap α β) : List α :=
  m.entries.map Prod.fst

def values (m : OrderedMap α β) : List β :=
  m.entries.map Prod.snd

def size (m : OrderedMap α β) : Nat :=
  m.entries.length

def isEmpty (m : OrderedMap α β) : Bool :=
  m.entries.isEmpty

/-- The first map with the entries of the second put over its own. -/
def union [Std.TransOrd α] (m n : OrderedMap α β) : OrderedMap α β :=
  n.entries.foldl (fun acc e => acc.insert e.1 e.2) m

end OrderedMap

end PodTunnels
