import PodTunnels.OrderedMap.Lookup
import PodTunnels.Registry
import Mathlib.Logic.Basic

/-!
# The registry and its lookups

What each operation of the registry does to its two views: the sessions of the roster and the entry
under each key. A registry is well-formed when every entry stands under the key of the session that
it names. No operation breaks that, so a session is registered under its own key or not at all, and
no two sessions of one key are registered at once.

A key is free when no live session holds it. Only then does `add` succeed, and it changes no other
entry.
-/

namespace PodTunnels

namespace OrderedMap

variable {α β : Type} [Ord α] [Std.TransOrd α] [Std.LawfulEqOrd α] [DecidableEq α]

theorem get?_insert_eq (m : OrderedMap α β) (k k' : α) (v : β) :
    (m.insert k v).get? k' = if k' = k then some v else m.get? k' := by
  simp only [get?_insert, Std.LawfulEqOrd.compare_eq_iff_eq]

theorem get?_erase_eq (m : OrderedMap α β) (k k' : α) :
    (m.erase k).get? k' = if k' = k then none else m.get? k' := by
  simp only [get?_erase, Std.LawfulEqOrd.compare_eq_iff_eq]

end OrderedMap

namespace Registry

variable {r r' : Registry} {id id' : SessionId} {key : SessionKey} {s : Session}

/-! ## Sessions of the roster -/

theorem session?_live (r : Registry) (id id' : SessionId) (f : Life → Life) :
    (r.live id f).session? id' =
      if id' = id then (r.session? id').map (·.live f) else r.session? id' := by
  simp only [session?, live, List.getElem?_modify]
  by_cases h : id' = id
  · simp [h]
  · simp [h, Ne.symm h]

@[simp] theorem entries_live (r : Registry) (id : SessionId) (f : Life → Life) :
    (r.live id f).entries = r.entries := rfl

@[simp] theorem entries_enroll (r : Registry) (w : Wiring) :
    (r.enroll w).2.entries = r.entries := rfl

theorem session?_enroll (r : Registry) (w : Wiring) (id : SessionId) :
    (r.enroll w).2.session? id =
      if id = r.roster.length then some (.ofWiring w) else r.session? id := by
  simp only [session?, enroll]
  by_cases h : id = r.roster.length
  · simp [h]
  · rw [if_neg h]
    rcases Nat.lt_or_gt_of_ne h with hlt | hgt
    · rw [List.getElem?_append_left hlt]
    · rw [List.getElem?_eq_none (by simpa using Nat.succ_le_of_lt hgt),
        List.getElem?_eq_none (Nat.le_of_lt hgt)]

theorem session?_eq_none_iff : r.session? id = none ↔ r.roster.length ≤ id :=
  List.getElem?_eq_none_iff

theorem session?_length : r.session? r.roster.length = none :=
  session?_eq_none_iff.2 (Nat.le_refl _)

@[simp] theorem session?_withEntries (r : Registry) (m : OrderedMap SessionKey SessionId)
    (id : SessionId) : { r with entries := m }.session? id = r.session? id := rfl

/-! ## Lookups and registration -/

theorem isLive_of_session? (h : r.session? id = some s) : r.isLive id = s.isLive := by
  simp [isLive, h]

theorem lookup_eq_some_iff :
    r.lookup key = some id ↔ r.entries.get? key = some id ∧ r.isLive id = true := by
  simp [lookup, Option.filter_eq_some_iff]

theorem lookup_eq_none_iff :
    r.lookup key = none ↔ ∀ id, r.entries.get? key = some id → r.isLive id = false := by
  simp [lookup, Option.filter_eq_none_iff]

/-- A session is registered when the entry under its key is its own. -/
theorem isRegistered_of_session? (h : r.session? id = some s) :
    r.isRegistered id = true ↔ r.entries.get? s.key = some id := by
  simp [isRegistered, h]

theorem isRegistered_eq_false_of_none (h : r.session? id = none) : r.isRegistered id = false := by
  simp [isRegistered, h]

/-- No two sessions of one key are registered. -/
theorem isRegistered_unique {s' : Session} (h : r.session? id = some s)
    (h' : r.session? id' = some s') (hkey : s.key = s'.key) (hreg : r.isRegistered id = true)
    (hreg' : r.isRegistered id' = true) : id = id' := by
  rw [isRegistered_of_session? h] at hreg
  rw [isRegistered_of_session? h', ← hkey, hreg] at hreg'
  exact Option.some.inj hreg'

/-- Every entry stands under the key of its session. -/
def WellFormed (r : Registry) : Prop :=
  ∀ ⦃key id⦄, r.entries.get? key = some id → ∃ s, r.session? id = some s ∧ s.key = key

theorem WellFormed.empty : ({} : Registry).WellFormed := by
  intro key id h
  simp [show (({} : Registry).entries.get? key) = none from rfl] at h

/-! ## Changes -/

/-- Registering succeeds exactly when no live session holds the key. -/
theorem add_eq_ok_iff (h : r.session? id = some s) :
    r.add id = .ok r' ↔
      r.lookup s.key = none ∧ r' = { r with entries := r.entries.insert s.key id } := by
  simp only [add, h]
  cases r.lookup s.key <;> simp [eq_comm]

theorem add_of_none (h : r.session? id = none) : r.add id = .ok r := by
  simp [add, h]

theorem add_of_lookup_none (h : r.session? id = some s) (hfree : r.lookup s.key = none) :
    r.add id = .ok { r with entries := r.entries.insert s.key id } :=
  (add_eq_ok_iff h).2 ⟨hfree, rfl⟩

/-- Registering fails with the key when a live session holds it. -/
theorem add_of_lookup_some (h : r.session? id = some s) (htaken : r.lookup s.key = some id') :
    r.add id = .error (.duplicateSession s.key) := by
  simp [add, h, htaken]

theorem roster_add (hadd : r.add id = .ok r') : r'.roster = r.roster := by
  cases hs : r.session? id with
  | none =>
    rw [add_of_none hs] at hadd
    cases hadd
    rfl
  | some s =>
    obtain ⟨-, rfl⟩ := (add_eq_ok_iff hs).1 hadd
    rfl

theorem roster_deleteSession (r : Registry) (id : SessionId) :
    (r.deleteSession id).roster = r.roster := by
  unfold deleteSession
  split
  · split <;> rfl
  · rfl

/-- In a well-formed registry, removing by key removes the session that is registered there. -/
theorem WellFormed.delete_eq (h : r.WellFormed) (hentry : r.entries.get? key = some id) :
    r.delete key = .ok (id, r.deleteSession id) := by
  obtain ⟨s, hs, rfl⟩ := h hentry
  simp [delete, deleteSession, hentry, hs]

theorem delete_of_none (h : r.entries.get? key = none) : r.delete key = .error (.notFound key) := by
  simp [delete, h]

@[simp] theorem session?_deleteSession (r : Registry) (id id' : SessionId) :
    (r.deleteSession id).session? id' = r.session? id' := by
  unfold deleteSession
  split
  · split <;> rfl
  · rfl

/-- After the removal of a session, entries of other sessions are what they were. -/
theorem get?_deleteSession (hs : r.session? id = some s) (key : SessionKey) :
    (r.deleteSession id).entries.get? key =
      if key = s.key ∧ r.entries.get? key = some id then none else r.entries.get? key := by
  simp only [deleteSession, hs]
  by_cases hreg : r.entries.get? s.key = some id
  · rw [if_pos hreg, OrderedMap.get?_erase_eq]
    by_cases hk : key = s.key
    · subst hk
      simp [hreg]
    · simp [hk]
  · rw [if_neg hreg, if_neg]
    rintro ⟨rfl, h⟩
    exact hreg h

theorem deleteSession_of_none (hs : r.session? id = none) : r.deleteSession id = r := by
  simp [deleteSession, hs]

/-- A removed session is not registered, and every other one is registered as before. -/
theorem isRegistered_deleteSession (r : Registry) (id id' : SessionId) :
    (r.deleteSession id).isRegistered id' = (r.isRegistered id' && id' != id) := by
  cases hs' : r.session? id' with
  | none => simp [isRegistered, hs']
  | some s' =>
    rw [Bool.eq_iff_iff, isRegistered_of_session? (by simpa using hs'), Bool.and_eq_true,
      isRegistered_of_session? hs', bne_iff_ne]
    cases hs : r.session? id with
    | none =>
      have hne : id' ≠ id := by
        rintro rfl
        simp [hs] at hs'
      simp [deleteSession_of_none hs, hne]
    | some s =>
      rw [get?_deleteSession hs]
      by_cases hid : id' = id
      · subst hid
        have : s' = s := Option.some.inj (hs'.symm.trans hs)
        subst this
        simp
      · by_cases hheld : r.entries.get? s'.key = some id
        · simp [hheld, hid, Ne.symm hid]
        · simp [hheld, hid]

/-- Registering a session under a key displaces the entry of that key only. -/
theorem isRegistered_insert (hs : r.session? id = some s) (id' : SessionId) :
    { r with entries := r.entries.insert s.key id }.isRegistered id' =
      if id' = id then true
      else r.isRegistered id' && (r.session? id').all fun s' => s'.key ≠ s.key := by
  by_cases hid : id' = id
  · subst hid
    simp [isRegistered, hs, OrderedMap.get?_insert_eq]
  · rw [if_neg hid]
    cases hs' : r.session? id' with
    | none => simp [isRegistered, hs']
    | some s' =>
      by_cases hk : s'.key = s.key <;>
        simp [isRegistered, hs', OrderedMap.get?_insert_eq, hk, Ne.symm hid]

theorem isRegistered_live (r : Registry) (id id' : SessionId) (f : Life → Life) :
    (r.live id f).isRegistered id' = r.isRegistered id' := by
  simp only [isRegistered, session?_live, entries_live]
  split
  · cases r.session? id' <;> simp
  · rfl

theorem WellFormed.isRegistered_enroll (h : r.WellFormed) (w : Wiring) (id : SessionId) :
    (r.enroll w).2.isRegistered id = r.isRegistered id := by
  simp only [isRegistered, session?_enroll, entries_enroll]
  split
  · rename_i hid
    subst hid
    have habsent : r.entries.get? (Session.ofWiring w).key ≠ some r.roster.length := by
      intro hentry
      obtain ⟨s, hs, -⟩ := h hentry
      simp [session?_length] at hs
    simp [session?_length, habsent]
  · rfl

theorem WellFormed.live (h : r.WellFormed) (id : SessionId) (f : Life → Life) :
    (r.live id f).WellFormed := by
  intro key id' hentry
  obtain ⟨s, hs, hkey⟩ := h hentry
  rw [session?_live, hs]
  split
  · exact ⟨s.live f, rfl, hkey⟩
  · exact ⟨s, rfl, hkey⟩

theorem WellFormed.enroll (h : r.WellFormed) (w : Wiring) : (r.enroll w).2.WellFormed := by
  intro key id hentry
  obtain ⟨s, hs, hkey⟩ := h hentry
  have hne : id ≠ r.roster.length := by
    rintro rfl
    simp [session?_length] at hs
  exact ⟨s, by rw [session?_enroll, if_neg hne, hs], hkey⟩

theorem WellFormed.lookup_enroll (h : r.WellFormed) (w : Wiring) (key : SessionKey) :
    (r.enroll w).2.lookup key = r.lookup key := by
  simp only [Registry.lookup, entries_enroll]
  cases hentry : r.entries.get? key with
  | none => rfl
  | some id =>
    obtain ⟨s, hs, -⟩ := h hentry
    have hne : id ≠ r.roster.length := by
      rintro rfl
      simp [session?_length] at hs
    have hlive : (r.enroll w).2.isLive id = r.isLive id := by
      simp only [isLive, session?_enroll, if_neg hne]
    rw [Option.filter_some, Option.filter_some, hlive]

theorem WellFormed.insert (h : r.WellFormed) (hs : r.session? id = some s) :
    { r with entries := r.entries.insert s.key id }.WellFormed := by
  intro key id' hentry
  simp only [OrderedMap.get?_insert_eq] at hentry
  split at hentry
  · cases hentry
    rename_i hkey
    exact ⟨s, hs, hkey.symm⟩
  · exact h hentry

theorem WellFormed.add (h : r.WellFormed) (hadd : r.add id = .ok r') : r'.WellFormed := by
  cases hs : r.session? id with
  | none =>
    rw [add_of_none hs] at hadd
    cases hadd
    exact h
  | some s =>
    obtain ⟨-, rfl⟩ := (add_eq_ok_iff hs).1 hadd
    exact h.insert hs

theorem WellFormed.deleteSession (h : r.WellFormed) (id : SessionId) :
    (r.deleteSession id).WellFormed := by
  cases hs : r.session? id with
  | none => rwa [deleteSession_of_none hs]
  | some s =>
    intro key id' hentry
    rw [get?_deleteSession hs] at hentry
    split at hentry
    · cases hentry
    · simpa using h hentry

end Registry

end PodTunnels
