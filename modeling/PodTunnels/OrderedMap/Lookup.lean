import PodTunnels.OrderedMap

/-!
# Lookups in ordered maps

What insertion and erasure do to lookups, and that lookups determine a map: the entries of a map are
the pairs that its lookups find (`mem_entries_iff`), and increasing lists with the same members are
equal (`eq_of_mem_iff`).
-/

namespace PodTunnels.OrderedMap

variable {α β : Type} [Ord α]

theorem find?_insertEntry [Std.TransOrd α] (k k' : α) (v : β) {es : List (α × β)}
    (h : es.Pairwise fun a b => compare a.1 b.1 = .lt) :
    ((insertEntry k v es).find? fun e => compare k' e.1 == .eq).map Prod.snd =
      if compare k' k = .eq then some v
      else (es.find? fun e => compare k' e.1 == .eq).map Prod.snd := by
  induction es with
  | nil => by_cases hk : compare k' k = .eq <;> simp [insertEntry, hk]
  | cons e es ih =>
    obtain ⟨he, hes⟩ := List.pairwise_cons.1 h
    unfold insertEntry
    split
    · rename_i hk
      by_cases hk' : compare k' k = .eq <;> simp [List.find?_cons, hk']
    · rename_i hk
      by_cases hk' : compare k' k = .eq
      · simp [hk']
      · have : compare k' e.1 ≠ .eq := fun h' =>
          hk' (Std.TransCmp.eq_trans h' (Std.OrientedCmp.eq_symm hk))
        simp [hk', this]
    · rename_i hk
      rw [List.find?_cons]
      by_cases hk' : compare k' e.1 = .eq
      · have : compare k' k ≠ .eq := fun h' => by
          have := Std.TransCmp.eq_trans (Std.OrientedCmp.eq_symm h') hk'
          simp [this] at hk
        simp [hk', this]
      · rw [beq_false_of_ne hk']
        simpa [hk'] using ih hes

/-- After an insertion the inserted key has its new value, and the others what they had. -/
theorem get?_insert [Std.TransOrd α] (m : OrderedMap α β) (k k' : α) (v : β) :
    (m.insert k v).get? k' = if compare k' k = .eq then some v else m.get? k' :=
  find?_insertEntry k k' v m.increasing

/-- After an erasure the key has no value, and the others what they had. -/
theorem get?_erase [Std.TransOrd α] (m : OrderedMap α β) (k k' : α) :
    (m.erase k).get? k' = if compare k' k = .eq then none else m.get? k' := by
  have key : ∀ e : α × β, compare k e.1 ≠ .eq → compare k' k = .eq → compare k' e.1 ≠ .eq :=
    fun e h hk h' => h (Std.TransCmp.eq_trans (Std.OrientedCmp.eq_symm hk) h')
  simp only [get?, erase]
  split
  · rename_i hk
    rw [Option.map_eq_none_iff, List.find?_eq_none]
    intro e he
    have := key e (by simpa using (List.mem_filter.1 he).2) hk
    simpa using this
  · rename_i hk
    congr 1
    rw [List.find?_filter]
    congr 1
    funext e
    by_cases h : compare k' e.1 = .eq
    · have : compare k e.1 ≠ .eq := fun h' =>
        hk (Std.TransCmp.eq_trans h (Std.OrientedCmp.eq_symm h'))
      simp [h, this]
    · simp [h]

/-- An entry of a map is what a lookup of its key finds. -/
theorem mem_entries_iff [Std.TransOrd α] [Std.LawfulEqOrd α] {m : OrderedMap α β} {k : α} {v : β} :
    (k, v) ∈ m.entries ↔ m.get? k = some v := by
  simp only [get?, Option.map_eq_some_iff]
  constructor
  · intro h
    have found : ∀ es : List (α × β), (es.Pairwise fun a b => compare a.1 b.1 = .lt) →
        (k, v) ∈ es → es.find? (fun e => compare k e.1 == .eq) = some (k, v) := by
      intro es
      induction es with
      | nil => simp
      | cons e es ih =>
        intro hes hmem
        obtain ⟨he, hes⟩ := List.pairwise_cons.1 hes
        rcases List.mem_cons.1 hmem with rfl | hmem
        · simp
        · have : compare k e.1 ≠ .eq := by
            rw [Std.OrientedCmp.gt_iff_lt.2 (he _ hmem)]
            decide
          simpa [this] using ih hes hmem
    exact ⟨_, found _ m.increasing h, rfl⟩
  · rintro ⟨e, he, rfl⟩
    have : k = e.1 := Std.LawfulEqOrd.eq_of_compare (by simpa using List.find?_some he)
    subst this
    exact List.mem_of_find?_eq_some he

/-- What a list of entries builds up has no entries but those of the list. -/
theorem mem_of_mem_ofList [Std.TransOrd α] {es : List (α × β)} {e : α × β}
    (h : e ∈ (ofList es).entries) : e ∈ es := by
  have hbuilt : ∀ x ∈ (ofList es).entries, x ∈ es := by
    apply List.foldlRecOn (motive := fun m : OrderedMap α β => ∀ x ∈ m.entries, x ∈ es)
    · exact fun x hx => absurd hx List.not_mem_nil
    · intro m hm x hx y hy
      cases mem_insertEntry hy with
      | inl heq => exact heq ▸ hx
      | inr hmem => exact hm y hmem
  exact hbuilt e h

/-- Increasing lists with the same members are equal. -/
theorem eq_of_mem_iff [Std.TransOrd α] {es fs : List (α × β)}
    (hes : es.Pairwise fun a b => compare a.1 b.1 = .lt)
    (hfs : fs.Pairwise fun a b => compare a.1 b.1 = .lt) (h : ∀ x, x ∈ es ↔ x ∈ fs) : es = fs := by
  induction es generalizing fs with
  | nil => exact (List.eq_nil_iff_forall_not_mem.2 fun x hx => by simpa using (h x).2 hx).symm
  | cons e es ih =>
    cases fs with
    | nil => exact absurd ((h e).1 List.mem_cons_self) List.not_mem_nil
    | cons f fs =>
      obtain ⟨he, hes⟩ := List.pairwise_cons.1 hes
      obtain ⟨hf, hrest⟩ := List.pairwise_cons.1 hfs
      have irrefl : ∀ x : α × β, compare x.1 x.1 ≠ .lt := by simp
      have heq : e = f := by
        rcases List.mem_cons.1 ((h e).1 List.mem_cons_self) with rfl | hmem
        · rfl
        · rcases List.mem_cons.1 ((h f).2 List.mem_cons_self) with rfl | hmem'
          · rfl
          · exact absurd (Std.TransCmp.lt_trans (he f hmem') (hf e hmem)) (irrefl e)
      subst heq
      congr 1
      refine ih hes hrest fun x => ⟨fun hx => ?_, fun hx => ?_⟩
      · rcases List.mem_cons.1 ((h x).1 (List.mem_cons_of_mem _ hx)) with rfl | hx'
        · exact absurd (he x hx) (irrefl x)
        · exact hx'
      · rcases List.mem_cons.1 ((h x).2 (List.mem_cons_of_mem _ hx)) with rfl | hx'
        · exact absurd (hf x hx) (irrefl x)
        · exact hx'

end PodTunnels.OrderedMap
