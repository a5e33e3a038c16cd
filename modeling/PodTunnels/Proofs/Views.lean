import PodTunnels.Proofs.Deletion
import PodTunnels.Proofs.Listing

/-!
# The views of the registry

Every view of the registry tells of the same sessions, whatever was done to the registry and however
the lives of its sessions went on (`Views`). The sessions stand in the order of their keys, that is
of their bytes, and sorting the entries brings them into that order however they are collected.

So the views depend on what is registered in the end, not on how it came to be. Sessions are
numbered as they are made. If two registries hold the same sessions, then their views are the same
but for these numbers (`SameViews`).
-/

namespace PodTunnels

/-- A key comes before another one: by the path of the pod first, and by the bytes of the container
second. -/
def SessionKey.Precedes (k l : SessionKey) : Prop :=
  k.pod.Precedes l.pod ∨
    k.pod = l.pod ∧ Text.Utf8.encode k.container < Text.Utf8.encode l.container

theorem SessionKey.precedes_iff {k l : SessionKey} : k.Precedes l ↔ compare k l = .lt := by
  have hcompare : compare k l = (compare k.pod l.pod).then (compare k.container l.container) := rfl
  rw [hcompare, Ordering.then_eq_lt, Std.LawfulEqOrd.compare_eq_iff_eq, compare_lt_iff_lt,
    ← Text.Utf8.encode_lt_encode_iff, ← ResourcePath.precedes_iff, SessionKey.Precedes]

/-- Entries of an increasing list are sorted into that list from any order. -/
theorem OrderedMap.mergeSort_eq {α β : Type} [Ord α] [Std.TransOrd α] [Std.LawfulEqOrd α]
    {es fs : List (α × β)} (hperm : es.Perm fs)
    (hfs : fs.Pairwise fun e f => compare e.1 f.1 = .lt) :
    (es.mergeSort fun e f => (compare e.1 f.1).isLE) = fs := by
  have hdistinct : (es.map Prod.fst).Nodup := (hperm.map Prod.fst).nodup_iff.2 <|
    List.pairwise_map.2 (hfs.imp fun hlt heq => by simp [heq] at hlt)
  exact eq_of_mem_iff (pairwise_mergeSort_of_key Prod.fst hdistinct) hfs fun _ =>
    ((List.mergeSort_perm es _).trans hperm).mem_iff

namespace Registry

variable {r r' : Registry} {id : SessionId} {key : SessionKey} {s : Session} {pod : ResourcePath}

/-! ## Histories -/

/-- What is done to the registry, or to a session of its roster. -/
inductive Change where
  | enroll (w : Wiring)
  | add (id : SessionId)
  | delete (key : SessionKey)
  | deleteSession (id : SessionId)
  | live (id : SessionId) (f : Life → Life)

/-- The registry after a change. One that fails changes nothing. -/
def change (r : Registry) : Change → Registry
  | .enroll w => (r.enroll w).2
  | .add id => (r.add id).toOption.getD r
  | .delete key => ((r.delete key).toOption.map Prod.snd).getD r
  | .deleteSession id => r.deleteSession id
  | .live id f => r.live id f

def ofHistory (changes : List Change) : Registry :=
  changes.foldl change {}

theorem roster_change_add (r : Registry) (id : SessionId) :
    (r.change (.add id)).roster = r.roster := by
  simp only [Registry.change]
  cases hadd : r.add id with
  | error e => rfl
  | ok r' => exact roster_add hadd

theorem WellFormed.change (wf : r.WellFormed) (d : Change) : (r.change d).WellFormed := by
  cases d with
  | enroll w => exact wf.enroll w
  | add id =>
    simp only [Registry.change]
    cases hadd : r.add id with
    | error e => exact wf
    | ok r' => exact wf.add hadd
  | delete key =>
    simp only [Registry.change]
    cases hentry : r.entries.get? key with
    | none =>
      rw [delete_of_none hentry]
      exact wf
    | some id =>
      rw [wf.delete_eq hentry]
      exact wf.deleteSession id
  | deleteSession id => exact wf.deleteSession id
  | live id f => exact wf.live id f

theorem wellFormed_ofHistory (changes : List Change) : (ofHistory changes).WellFormed :=
  List.foldlRecOn changes Registry.change WellFormed.empty fun _ wf d _ => wf.change d

/-! ## Registered sessions -/

/-- A session is registered, and has this number. -/
def Registered (r : Registry) (id : SessionId) (s : Session) : Prop :=
  r.session? id = some s ∧ r.isRegistered id = true

theorem registered_iff :
    r.Registered id s ↔ r.session? id = some s ∧ r.entries.get? s.key = some id :=
  and_congr_right fun hs => isRegistered_of_session? hs

theorem WellFormed.mem_entries_iff (wf : r.WellFormed) :
    (key, id) ∈ r.entries.entries ↔ ∃ s, r.Registered id s ∧ s.key = key := by
  rw [OrderedMap.mem_entries_iff]
  constructor
  · intro hentry
    obtain ⟨s, hs, rfl⟩ := wf hentry
    exact ⟨s, registered_iff.2 ⟨hs, hentry⟩, rfl⟩
  · rintro ⟨s, hregistered, rfl⟩
    exact (registered_iff.1 hregistered).2

theorem WellFormed.mem_sessions_iff (wf : r.WellFormed) :
    id ∈ r.sessions ↔ ∃ s, r.Registered id s := by
  have hentries : id ∈ r.sessions ↔ ∃ key, (key, id) ∈ r.entries.entries := by
    simp [sessions, OrderedMap.values]
  simp [hentries, wf.mem_entries_iff]

theorem WellFormed.registered_iff_mem (wf : r.WellFormed) :
    r.Registered id s ↔ id ∈ r.sessions ∧ r.session? id = some s := by
  rw [wf.mem_sessions_iff]
  constructor
  · exact fun hregistered => ⟨⟨s, hregistered⟩, hregistered.1⟩
  · rintro ⟨⟨s', hs', hregistered⟩, hs⟩
    exact ⟨hs, hregistered⟩

/-- The sessions that are registered after a change of a registry. Adding one displaces what its
key had, but does nothing while a live session holds the key. -/
def Change.Registers (d : Change) (r : Registry) (id : SessionId) (s : Session) : Prop :=
  match d with
  | .enroll _ => r.Registered id s
  | .add new =>
    match r.session? new with
    | none => r.Registered id s
    | some t =>
      if (r.lookup t.key).isSome then r.Registered id s
      else id = new ∧ s = t ∨ r.Registered id s ∧ s.key ≠ t.key
  | .delete key => r.Registered id s ∧ s.key ≠ key
  | .deleteSession gone => r.Registered id s ∧ id ≠ gone
  | .live changed f => ∃ t, r.Registered id t ∧ (if id = changed then t.live f else t) = s

theorem WellFormed.registered_enroll (wf : r.WellFormed) (w : Wiring) :
    (r.enroll w).2.Registered id s ↔ r.Registered id s := by
  rw [Registered, Registered, wf.isRegistered_enroll, session?_enroll]
  refine and_congr_left fun hregistered => ?_
  rw [if_neg]
  rintro rfl
  rw [isRegistered_eq_false_of_none session?_length] at hregistered
  cases hregistered

theorem registered_deleteSession {gone : SessionId} :
    (r.deleteSession gone).Registered id s ↔ r.Registered id s ∧ id ≠ gone := by
  rw [Registered, Registered, session?_deleteSession, isRegistered_deleteSession, Bool.and_eq_true,
    bne_iff_ne, and_assoc]

theorem registered_live {changed : SessionId} {f : Life → Life} :
    (r.live changed f).Registered id s ↔
      ∃ t, r.Registered id t ∧ (if id = changed then t.live f else t) = s := by
  simp only [Registered, isRegistered_live, session?_live]
  split
  · rw [Option.map_eq_some_iff]
    exact ⟨fun ⟨⟨t, ht, hs⟩, h⟩ => ⟨t, ⟨ht, h⟩, hs⟩, fun ⟨t, ⟨ht, h⟩, hs⟩ => ⟨⟨t, ht, hs⟩, h⟩⟩
  · exact ⟨fun h => ⟨s, h, rfl⟩, fun ⟨t, h, hs⟩ => hs ▸ h⟩

theorem registered_insert {new : SessionId} {t : Session} (ht : r.session? new = some t) :
    { r with entries := r.entries.insert t.key new }.Registered id s ↔
      id = new ∧ s = t ∨ r.Registered id s ∧ s.key ≠ t.key := by
  simp only [Registered, isRegistered_insert ht, session?_withEntries]
  by_cases hid : id = new
  · subst hid
    constructor
    · rintro ⟨hs, -⟩
      exact .inl ⟨rfl, Option.some.inj (hs.symm.trans ht)⟩
    · rintro (⟨-, rfl⟩ | ⟨⟨hs, -⟩, hkey⟩)
      · exact ⟨ht, if_pos rfl⟩
      · rw [Option.some.inj (hs.symm.trans ht)] at hkey
        exact absurd rfl hkey
  · rw [if_neg hid]
    constructor
    · rintro ⟨hs, hregistered⟩
      exact .inr (by simpa [hs] using hregistered)
    · rintro (⟨rfl, -⟩ | ⟨⟨hs, hregistered⟩, hkey⟩)
      · exact absurd rfl hid
      · exact ⟨hs, by simp [hs, hregistered, hkey]⟩

theorem WellFormed.registered_change (wf : r.WellFormed) (d : Change) :
    (r.change d).Registered id s ↔ d.Registers r id s := by
  cases d with
  | enroll w => exact wf.registered_enroll w
  | add new =>
    simp only [Registry.change, Change.Registers]
    cases ht : r.session? new with
    | none =>
      rw [add_of_none ht]
      rfl
    | some t =>
      cases hholds : r.lookup t.key with
      | some holder =>
        rw [add_of_lookup_some ht hholds]
        simp only [hholds, Option.isSome_some, if_true]
        rfl
      | none =>
        rw [add_of_lookup_none ht hholds]
        simp only [hholds]
        exact registered_insert ht
  | delete key =>
    simp only [Registry.change, Change.Registers]
    cases hentry : r.entries.get? key with
    | none =>
      rw [delete_of_none hentry]
      refine (and_iff_left_of_imp fun (hregistered : r.Registered id s) hkey => ?_).symm
      rw [← hkey, (registered_iff.1 hregistered).2] at hentry
      cases hentry
    | some gone =>
      rw [wf.delete_eq hentry]
      -- The session that is removed is the only registered one with the key.
      refine registered_deleteSession.trans (and_congr_right fun hregistered => not_congr ?_)
      have hentry' := (registered_iff.1 hregistered).2
      constructor
      · rintro rfl
        obtain ⟨s', hs', rfl⟩ := wf hentry
        rw [Option.some.inj (hregistered.1.symm.trans hs')]
      · rintro rfl
        exact Option.some.inj (hentry'.symm.trans hentry)
  | deleteSession gone => exact registered_deleteSession
  | live changed f => exact registered_live

/-! ## The views of one registry -/

/-- The sessions of entries that were collected in any order. -/
def sorted (collected : List (SessionKey × SessionId)) : List SessionId :=
  (collected.mergeSort fun e f => (compare e.1 f.1).isLE).map Prod.snd

/-- The views tell of the registered sessions, in the order of their keys. -/
structure Views (r : Registry) : Prop where
  listed : ∀ id, id ∈ r.sessions ↔ ∃ s, r.Registered id s
  ordered : ∃ ss : List Session, r.sessions.map r.session? = ss.map some ∧
    ss.Pairwise fun s t => s.key.Precedes t.key
  collected : ∀ es, es.Perm r.entries.entries → sorted es = r.sessions ∧
    ∀ pod, sorted (es.filter fun e => e.1.pod = pod ∧ r.isLive e.2) = r.allForPod pod
  forPod : ∀ pod, r.allForPod pod =
    r.sessions.filter fun id => (r.session? id).any fun s => s.pod = pod ∧ s.isLive
  lookup : ∀ key id, r.lookup key = some id ↔
    ∃ s, r.Registered id s ∧ s.key = key ∧ s.isLive = true
  size : r.size = r.sessions.length

theorem WellFormed.lookup_eq_some_iff (wf : r.WellFormed) :
    r.lookup key = some id ↔ ∃ s, r.Registered id s ∧ s.key = key ∧ s.isLive = true := by
  rw [Registry.lookup_eq_some_iff, ← OrderedMap.mem_entries_iff, wf.mem_entries_iff]
  constructor
  · rintro ⟨⟨s, hregistered, hkey⟩, hlive⟩
    exact ⟨s, hregistered, hkey, (isLive_of_session? hregistered.1).symm.trans hlive⟩
  · rintro ⟨s, hregistered, hkey, hlive⟩
    exact ⟨⟨s, hregistered, hkey⟩, (isLive_of_session? hregistered.1).trans hlive⟩

theorem WellFormed.allForPod_eq (wf : r.WellFormed) (pod : ResourcePath) :
    r.allForPod pod =
      r.sessions.filter fun id => (r.session? id).any fun s => s.pod = pod ∧ s.isLive := by
  rw [allForPod, sessions, OrderedMap.values, List.filter_map]
  refine congrArg _ (List.filter_congr fun e he => ?_)
  obtain ⟨s, ⟨hs, -⟩, hkey⟩ := wf.mem_entries_iff.1 he
  simp only [Function.comp_apply, hs, isLive_of_session? hs, Option.any_some, ← hkey]
  rfl

theorem sorted_eq {es fs : List (SessionKey × SessionId)} (hperm : es.Perm fs)
    (hfs : fs.Sublist r.entries.entries) : sorted es = fs.map Prod.snd :=
  congrArg _ (OrderedMap.mergeSort_eq hperm (r.entries.increasing.sublist hfs))

theorem WellFormed.views (wf : r.WellFormed) : r.Views where
  listed _ := wf.mem_sessions_iff
  ordered := by
    obtain ⟨ss, hsessions, hkeys⟩ := exists_sessions_of_entries wf fun e he => he
    have hincreasing : (ss.map fun s => s.key).Pairwise fun k l => compare k l = .lt :=
      hkeys ▸ List.pairwise_map.2 r.entries.increasing
    exact ⟨ss, hsessions, (List.pairwise_map.1 hincreasing).imp SessionKey.precedes_iff.2⟩
  collected es hperm :=
    ⟨sorted_eq hperm (List.Sublist.refl _), fun _ => sorted_eq (hperm.filter _) List.filter_sublist⟩
  forPod := wf.allForPod_eq
  lookup _ _ := wf.lookup_eq_some_iff
  size := (List.length_map _).symm

/-! ## The views of two registries -/

/-- The views of the first registry are those of the second one with its numbers changed. -/
structure SameViews (f : SessionId → SessionId) (r r' : Registry) : Prop where
  sessions : r.sessions = r'.sessions.map f
  allForPod : ∀ pod, r.allForPod pod = (r'.allForPod pod).map f
  lookup : ∀ key, r.lookup key = (r'.lookup key).map f
  size : r.size = r'.size
  snapshot : r.snapshot = r'.snapshot

variable {f : SessionId → SessionId}

/-- The entries are the same but for the numbers. -/
theorem entries_eq_map (wf : r.WellFormed) (wf' : r'.WellFormed)
    (hsame : ∀ id s, r.Registered id s ↔ ∃ id', f id' = id ∧ r'.Registered id' s) :
    r.entries.entries = r'.entries.entries.map fun e => (e.1, f e.2) := by
  refine OrderedMap.eq_of_mem_iff r.entries.increasing
    (List.pairwise_map.2 r'.entries.increasing) fun ⟨key, id⟩ => ?_
  rw [wf.mem_entries_iff, List.mem_map]
  constructor
  · rintro ⟨s, hregistered, hkey⟩
    obtain ⟨id', hid, hregistered'⟩ := (hsame id s).1 hregistered
    exact ⟨(key, id'), wf'.mem_entries_iff.2 ⟨s, hregistered', hkey⟩, by rw [hid]⟩
  · rintro ⟨⟨key', id'⟩, hentry, heq⟩
    obtain ⟨rfl, hid⟩ := Prod.mk.inj heq
    obtain ⟨s, hregistered', hkey⟩ := wf'.mem_entries_iff.1 hentry
    exact ⟨s, (hsame id s).2 ⟨id', hid, hregistered'⟩, hkey⟩

theorem sameViews (wf : r.WellFormed) (wf' : r'.WellFormed)
    (hsame : ∀ id s, r.Registered id s ↔ ∃ id', f id' = id ∧ r'.Registered id' s) :
    SameViews f r r' := by
  have hentries := entries_eq_map wf wf' hsame
  have hsession : ∀ e ∈ r'.entries.entries, r.session? (f e.2) = r'.session? e.2 := by
    intro e he
    obtain ⟨s, hregistered, -⟩ := wf'.mem_entries_iff.1 he
    exact ((hsame _ s).2 ⟨_, rfl, hregistered⟩).1.trans hregistered.1.symm
  have hsessions : r.sessions = r'.sessions.map f := by
    simp [sessions, OrderedMap.values, hentries, Function.comp_def]
  refine ⟨hsessions, fun pod => ?_, fun key => ?_, ?_, ?_⟩
  · rw [allForPod, hentries, List.filter_map, List.map_map, allForPod, List.map_map]
    refine congrArg _ (List.filter_congr fun e he => ?_)
    have hlive : r.isLive (f e.2) = r'.isLive e.2 := by rw [isLive, isLive, hsession e he]
    simp only [Function.comp_apply, hlive]
  · ext id
    rw [wf.lookup_eq_some_iff, Option.map_eq_some_iff]
    simp only [wf'.lookup_eq_some_iff, hsame]
    constructor
    · rintro ⟨s, ⟨id', hid, hregistered⟩, hkey, hlive⟩
      exact ⟨id', ⟨s, hregistered, hkey, hlive⟩, hid⟩
    · rintro ⟨id', ⟨s, hregistered, hkey, hlive⟩, hid⟩
      exact ⟨s, ⟨id', hid, hregistered⟩, hkey, hlive⟩
  · simp [size, OrderedMap.size, hentries]
  · rw [snapshot, snapshot, hsessions, List.filterMap_map]
    refine List.filterMap_congr fun id hid => ?_
    obtain ⟨e, he, rfl⟩ := List.mem_map.1 hid
    simp only [Function.comp_apply, hsession e he]

theorem ofHistory_concat (changes : List Change) (d : Change) :
    ofHistory (changes ++ [d]) = (ofHistory changes).change d := by
  simp [ofHistory]

/-- After every history the views are those of the sessions that its changes left registered, and
do not depend on how these came to be registered. -/
theorem views_of_history (changes : List Change) :
    (ofHistory changes).Views ∧
      (∀ d id s, (ofHistory (changes ++ [d])).Registered id s ↔
        d.Registers (ofHistory changes) id s) ∧
      ∀ (others : List Change) (f : SessionId → SessionId),
        (∀ id s, (ofHistory changes).Registered id s ↔
          ∃ id', f id' = id ∧ (ofHistory others).Registered id' s) →
        SameViews f (ofHistory changes) (ofHistory others) := by
  have wf := wellFormed_ofHistory changes
  refine ⟨wf.views, fun d id s => ?_, fun others f hsame => ?_⟩
  · rw [ofHistory_concat]
    exact wf.registered_change d
  · exact sameViews wf (wellFormed_ofHistory others) hsame

/-- Two sessions that are made and added the other way round give the same views. -/
theorem views_of_swapped_sessions :
    let web (name : String) : Wiring :=
      { key := ⟨⟨"shop", name⟩, "app"⟩
        tunnels := [{ address := "localhost", localPort := 8080, containerPort := 80 }]
        tunnels_ne_nil := List.cons_ne_nil _ _
        transport := 0 }
    let history (first second : String) :=
      ofHistory [.enroll (web first), .enroll (web second), .add 0, .add 1]
    (history "web-0" "web-1").sessions = [0, 1] ∧ (history "web-1" "web-0").sessions = [1, 0] ∧
      SameViews (1 - ·) (history "web-0" "web-1") (history "web-1" "web-0") := by
  intro web history
  have hsessions : (history "web-0" "web-1").sessions = [0, 1] := by decide +kernel
  have hsessions' : (history "web-1" "web-0").sessions = [1, 0] := by decide +kernel
  have hroster (first second : String) :
      (history first second).roster = [.ofWiring (web first), .ofWiring (web second)] := by
    simp only [history, ofHistory, List.foldl_cons, List.foldl_nil, roster_change_add]
    rfl
  have hregistered (first second : String) (id : SessionId) (s : Session) :
      (history first second).Registered id s ↔ id ∈ (history first second).sessions ∧
        [Session.ofWiring (web first), .ofWiring (web second)][id]? = some s := by
    rw [(wellFormed_ofHistory _).registered_iff_mem, session?, hroster]
  refine ⟨hsessions, hsessions', (views_of_history _).2.2 _ (1 - ·) fun id s => ?_⟩
  show (history _ _).Registered id s ↔ ∃ id', _ ∧ (history "web-1" "web-0").Registered id' s
  simp only [hregistered, hsessions, hsessions']
  constructor
  · rintro ⟨hid, hs⟩
    obtain rfl | rfl : id = 0 ∨ id = 1 := by simpa using hid
    · exact ⟨1, rfl, by decide, hs⟩
    · exact ⟨0, rfl, by decide, hs⟩
  · rintro ⟨id', rfl, hid, hs⟩
    obtain rfl | rfl : id' = 1 ∨ id' = 0 := by simpa using hid
    · exact ⟨by decide, hs⟩
    · exact ⟨by decide, hs⟩

end Registry

end PodTunnels
