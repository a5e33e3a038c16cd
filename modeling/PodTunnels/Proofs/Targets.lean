import PodTunnels.Proofs.Chosen
import PodTunnels.Proofs.LetterCase
import PodTunnels.Resource.Parser

/-!
# Targets in writing

A name is a text that is not empty and has no slash (`IsName`). Paths and targets are written
alike: as a name, or as two names around a slash (`IsPair`); what the first of two names means, and
what stands in for it, is where they differ (`ResourcePath.parse_around`, `Target.parse_around`). A
kind is read from its name in lower case, so the name of a kind that was read is read as that kind
again (`ResourceKind.parse_kubectlName`).
-/

namespace PodTunnels

open Text

/-- A text is not empty and has no slash. -/
def IsName (s : String) : Prop :=
  s ≠ "" ∧ '/' ∉ s.toList

/-- A text is two names around a slash. -/
def IsPair (s : String) : Prop :=
  ∃ left right, s = left ++ "/" ++ right ∧ IsName left ∧ IsName right

variable {s left right ns : String}

/-! ## The first slash -/

theorem toList_around (left right : String) :
    (left ++ "/" ++ right).toList = left.toList ++ '/' :: right.toList := by
  simp

theorem splitFirst_around (hfree : '/' ∉ left.toList) (right : String) :
    splitFirst '/' (left ++ "/" ++ right) = some (left, right) := by
  rw [splitFirst, toList_around, cutFirst_append hfree]
  simp

theorem splitFirst_of_notMem (hfree : '/' ∉ s.toList) : splitFirst '/' s = none := by
  rw [splitFirst, cutFirst_eq_none hfree, Option.map_none]

/-- A text has no slash, or a first one. -/
theorem slash_cases (s : String) :
    '/' ∉ s.toList ∨ ∃ left right, s = left ++ "/" ++ right ∧ '/' ∉ left.toList := by
  by_cases hslash : '/' ∈ s.toList
  · obtain ⟨left, right, hcut, hfree⟩ := List.eq_append_cons_of_mem hslash
    refine .inr ⟨.ofList left, .ofList right, ?_, by simpa using hfree⟩
    rw [← String.toList_inj, toList_around, hcut, String.toList_ofList, String.toList_ofList]
  · exact .inl hslash

theorem not_isName_around (left right : String) : ¬ IsName (left ++ "/" ++ right) := by
  intro h
  exact h.2 (by simp)

theorem not_isPair_of_notMem (hfree : '/' ∉ s.toList) : ¬ IsPair s := by
  rintro ⟨left, right, rfl, -⟩
  exact hfree (by simp)

theorem isPair_around_iff (hfree : '/' ∉ left.toList) :
    IsPair (left ++ "/" ++ right) ↔ IsName left ∧ IsName right := by
  constructor
  · rintro ⟨left', right', hsame, hleft, hright⟩
    have hcut := splitFirst_around hleft.2 right'
    rw [← hsame, splitFirst_around hfree] at hcut
    cases hcut
    exact ⟨hleft, hright⟩
  · rintro ⟨hleft, hright⟩
    exact ⟨left, right, rfl, hleft, hright⟩

/-! ## Reading -/

theorem unless_eq_ok_iff {ε α : Type} {refused : Prop} [Decidable refused] {e : ε} {a b : α} :
    (if refused then .error e else .ok a) = Except.ok b ↔ ¬ refused ∧ b = a := by
  by_cases h : refused <;> simp [h, eq_comm]

/-- Whatever is no name is refused. -/
theorem refused_iff : (s.isEmpty || s.toList.contains '/') = true ↔ ¬ IsName s := by
  simp only [IsName, Bool.or_eq_true, String.isEmpty_iff, List.contains_iff_mem, ne_eq, not_and_or,
    not_not]

namespace ResourcePath

variable {p : ResourcePath}

theorem parse_around (hfree : '/' ∉ left.toList) :
    parse (left ++ "/" ++ right) = .ok p ↔ IsName left ∧ IsName right ∧ p = ⟨left, right⟩ := by
  have hleft : left.isEmpty = true ↔ ¬ IsName left := by simp [IsName, hfree]
  simp only [parse, splitFirst_around hfree, Option.getD_some, unless_eq_ok_iff]
  rw [Bool.or_assoc, Bool.or_eq_true, hleft, refused_iff, not_or, not_not, not_not, and_assoc]

theorem parse_of_notMem (hfree : '/' ∉ s.toList) :
    parse s = .ok p ↔ IsName s ∧ p = ⟨defaultNamespace, s⟩ := by
  have hdefault : defaultNamespace.isEmpty = false := rfl
  simp only [parse, splitFirst_of_notMem hfree, Option.getD_none, unless_eq_ok_iff]
  rw [hdefault, Bool.false_or, refused_iff, not_not]

/-- A path is read back from its display. -/
theorem parse_render (hns : IsName p.ns) (hname : IsName p.name) : parse p.render = .ok p :=
  (parse_around hns.2).2 ⟨hns, hname, rfl⟩

theorem isName_defaultNamespace : IsName defaultNamespace :=
  ⟨by decide, by decide⟩

end ResourcePath

/-! ## Kinds -/

namespace ResourceKind

variable {name : String} {k : ResourceKind}

/-- The names of the kinds that lead to pods. -/
def supportedNames : List String :=
  ["po", "pod", "pods"] ++ ["deploy", "deployment", "deployments"] ++
    ["sts", "statefulset", "statefulsets"] ++ ["ds", "daemonset", "daemonsets"] ++
    ["rs", "replicaset", "replicasets"] ++ ["job", "jobs"] ++ ["svc", "service", "services"]

theorem parse_eq_ok_iff : parse s = .ok k ↔ s ≠ "" ∧ k = ofLowerName (lowerCase s) := by
  simp only [parse, String.isEmpty_iff, lowerCase_eq_empty_iff]
  by_cases hempty : s = ""
  · simp [hempty]
  · simp [hempty, eq_comm]

theorem ofLowerName_eq_other_iff {given : String} :
    ofLowerName name = .other given ↔ name ∉ supportedNames ∧ name = given := by
  simp only [ofLowerName, supportedNames, List.contains_iff_mem, List.mem_append]
  split_ifs <;> simp only [*, or_true, true_or, or_self, not_true, not_false_iff, false_and,
    true_and, ResourceKind.other.injEq]

/-- A name that stays as it is in lower case is read without it. -/
theorem parse_of_lowerCase (hlower : lowerCase s = s) (hsome : s ≠ "") :
    parse s = .ok (ofLowerName s) :=
  parse_eq_ok_iff.2 ⟨hsome, by rw [hlower]⟩

/-- A kind is read back from its name. -/
theorem parse_kubectlName (h : parse s = .ok k) : parse k.kubectlName = .ok k := by
  cases k with
  | other name =>
    obtain ⟨hsome, hkind⟩ := parse_eq_ok_iff.1 h
    obtain ⟨hfree, rfl⟩ := ofLowerName_eq_other_iff.1 hkind.symm
    have hname : lowerCase s ≠ "" := lowerCase_eq_empty_iff.not.2 hsome
    rw [kubectlName, parse_of_lowerCase (lowerCase_lowerCase s) hname]
    exact congrArg Except.ok (ofLowerName_eq_other_iff.2 ⟨hfree, rfl⟩)
  | _ => exact parse_of_lowerCase (lowerCase_eq_self (by decide +kernel)) (by decide)

end ResourceKind

/-! ## Targets -/

namespace Target

variable {t : Target}

theorem parse_around (hfree : '/' ∉ left.toList) :
    parse (left ++ "/" ++ right) ns = .ok t ↔
      IsName left ∧ IsName right ∧ t = ⟨.ofLowerName (lowerCase left), ⟨ns, right⟩⟩ := by
  have hleft : IsName left ↔ left ≠ "" := and_iff_left hfree
  simp only [parse, splitFirst_around hfree, bind_eq_ok_iff, unless_eq_ok_iff, refused_iff, not_not,
    ResourceKind.parse_eq_ok_iff, pure, Except.pure, Except.ok.injEq, hleft]
  constructor
  · rintro ⟨_, ⟨hsome, rfl⟩, _, rfl, hname, rfl⟩
    exact ⟨hsome, hname, rfl⟩
  · rintro ⟨hsome, hname, rfl⟩
    exact ⟨_, ⟨hsome, rfl⟩, _, rfl, hname, rfl⟩

theorem parse_of_notMem (hfree : '/' ∉ s.toList) :
    parse s ns = .ok t ↔ IsName s ∧ t = .ofPod ⟨ns, s⟩ := by
  simp only [parse, splitFirst_of_notMem hfree, bind_eq_ok_iff, unless_eq_ok_iff, refused_iff,
    not_not, pure, Except.pure, Except.ok.injEq]
  constructor
  · rintro ⟨_, rfl, hname, rfl⟩
    exact ⟨hname, rfl⟩
  · rintro ⟨hname, rfl⟩
    exact ⟨_, rfl, hname, rfl⟩

end Target

/-! ## What can be written -/

/-- Paths and targets are read from a name, or from two names around a slash, and from nothing else.
A path that was read displays as the text, after the default namespace if that was left out, and is
read back from its display. A kind that was read is read back from its name, and the name of a kind
that does not lead to pods is none of those that do, in whatever letter case. -/
theorem targets_in_writing :
    (∀ s, (∃ p, ResourcePath.parse s = .ok p) ↔ IsName s ∨ IsPair s) ∧
      (∀ s p, ResourcePath.parse s = .ok p →
        p.render = (if '/' ∈ s.toList then s else "default/" ++ s) ∧
          ResourcePath.parse p.render = .ok p) ∧
      (∀ s ns, (∃ t, Target.parse s ns = .ok t) ↔ IsName s ∨ IsPair s) ∧
      (∀ s k, ResourceKind.parse s = .ok k → ResourceKind.parse k.kubectlName = .ok k) ∧
      (∀ s name, ResourceKind.parse s = .ok (.other name) →
        lowerCase name ∉ ResourceKind.supportedNames) := by
  refine ⟨fun s => ?_, fun s p hread => ?_, fun s ns => ?_, fun s k hread => ?_,
    fun s name hread => ?_⟩
  · rcases slash_cases s with hfree | ⟨left, right, rfl, hfree⟩
    · simp [ResourcePath.parse_of_notMem hfree, not_isPair_of_notMem hfree]
    · simp [ResourcePath.parse_around hfree, isPair_around_iff hfree, not_isName_around]
  · rcases slash_cases s with hfree | ⟨left, right, rfl, hfree⟩
    · obtain ⟨hname, rfl⟩ := (ResourcePath.parse_of_notMem hfree).1 hread
      rw [if_neg hfree]
      exact ⟨rfl, ResourcePath.parse_render ResourcePath.isName_defaultNamespace hname⟩
    · obtain ⟨hleft, hright, rfl⟩ := (ResourcePath.parse_around hfree).1 hread
      rw [if_pos (by simp)]
      exact ⟨rfl, ResourcePath.parse_render hleft hright⟩
  · rcases slash_cases s with hfree | ⟨left, right, rfl, hfree⟩
    · simp [Target.parse_of_notMem hfree, not_isPair_of_notMem hfree]
    · simp [Target.parse_around hfree, isPair_around_iff hfree, not_isName_around]
  · exact ResourceKind.parse_kubectlName hread
  · obtain ⟨-, hkind⟩ := ResourceKind.parse_eq_ok_iff.1 hread
    obtain ⟨hfree, rfl⟩ := ResourceKind.ofLowerName_eq_other_iff.1 hkind.symm
    rwa [lowerCase_lowerCase]

/-- A path without a namespace, and a kind that does not lead to pods. -/
theorem configMap_in_writing :
    ResourcePath.parse "web-0" = .ok ⟨"default", "web-0"⟩ ∧
      ResourcePath.parse (ResourcePath.render ⟨"default", "web-0"⟩) = .ok ⟨"default", "web-0"⟩ ∧
      ResourceKind.parse "ConfigMap" = .ok (.other "configmap") ∧
      ResourceKind.parse (ResourceKind.other "configmap").kubectlName = .ok (.other "configmap") ∧
      lowerCase "configmap" ∉ ResourceKind.supportedNames := by
  have hpath : ResourcePath.parse "web-0" = .ok ⟨"default", "web-0"⟩ := by decide +kernel
  have hkind : ResourceKind.parse "ConfigMap" = .ok (.other "configmap") := by decide +kernel
  obtain ⟨-, hpaths, -, hkinds, hothers⟩ := targets_in_writing
  exact ⟨hpath, (hpaths _ _ hpath).2, hkind, hkinds _ _ hkind, hothers _ _ hkind⟩

end PodTunnels
