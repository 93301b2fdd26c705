import SlideDeck.Artifact.Basic
import SlideDeck.Proofs.Text.Pieces

/-!
# Names of artifacts

An id becomes a name when it is made of letters, digits, hyphens and underscores. Such a name is a
single part of a path, it tells the id and the extension that it was made of, and no temporary name
is one.
-/

namespace SlideDeck.Artifact

/-- An id of letters and digits of ASCII, hyphens and underscores. -/
def IsPlain (requestId : String) : Prop :=
  requestId ≠ "" ∧ ∀ c ∈ requestId.toList,
    ('A' ≤ c ∧ c ≤ 'Z') ∨ ('a' ≤ c ∧ c ≤ 'z') ∨ ('0' ≤ c ∧ c ≤ '9') ∨ c = '-' ∨ c = '_'

/-- A name for something in a directory: a single part of a path that leads neither nowhere nor
back. -/
structure IsComponent (name : String) : Prop where
  nonempty : name ≠ ""
  no_slash : '/' ∉ name.toList
  ne_dot : name ≠ "."
  ne_dots : name ≠ ".."

theorem isKeyChar_iff {c : Char} : isKeyChar c = true ↔
    ('A' ≤ c ∧ c ≤ 'Z') ∨ ('a' ≤ c ∧ c ≤ 'z') ∨ ('0' ≤ c ∧ c ≤ '9') ∨ c = '-' ∨ c = '_' := by
  have hupper : c.isUpper = true ↔ 'A' ≤ c ∧ c ≤ 'Z' := decide_eq_true_iff
  have hlower : c.isLower = true ↔ 'a' ≤ c ∧ c ≤ 'z' :=
    Bool.and_eq_true_iff.trans (and_congr decide_eq_true_iff decide_eq_true_iff)
  have hdigit : c.isDigit = true ↔ '0' ≤ c ∧ c ≤ '9' :=
    Bool.and_eq_true_iff.trans (and_congr decide_eq_true_iff decide_eq_true_iff)
  have hchar : isKeyChar c = (c.isUpper || c.isLower || c.isDigit || c == '-' || c == '_') := rfl
  simp only [hchar, Bool.or_eq_true, hupper, hlower, hdigit, beq_iff_eq, or_assoc]

theorem isKey_iff {requestId : String} : isKey requestId = true ↔ IsPlain requestId := by
  simp only [isKey, IsPlain, Bool.and_eq_true, Bool.not_eq_true', List.isEmpty_eq_false_iff,
    ne_eq, String.toList_eq_nil_iff, List.all_eq_true, isKeyChar_iff]

theorem name_of_not_isPlain {requestId : String} (contentType : String) (h : ¬ IsPlain requestId) :
    Artifact.name requestId contentType = .error (.invalidKey requestId) :=
  if_neg (mt isKey_iff.mp h)

theorem eq_invalidKey_of_name {requestId contentType : String} {e : SinkError}
    (h : Artifact.name requestId contentType = .error e) : e = .invalidKey requestId := by
  unfold Artifact.name at h
  split at h
  next => cases h
  next => exact (Except.error.inj h).symm

/-- Only plain ids become names, and they do whatever the type is. -/
theorem exists_name_iff {requestId contentType : String} :
    (∃ name, Artifact.name requestId contentType = .ok name) ↔ IsPlain requestId := by
  constructor
  · rintro ⟨name, hname⟩
    refine Classical.byContradiction fun h => ?_
    rw [name_of_not_isPlain contentType h] at hname
    cases hname
  · exact fun h => ⟨_, if_pos (isKey_iff.mpr h)⟩

theorem extension_cases (contentType : String) : extension contentType = "pdf" ∨
    extension contentType = "json" ∨ extension contentType = "bin" := by
  unfold extension
  split
  next => exact .inl rfl
  next =>
    split
    next => exact .inr (.inl rfl)
    next => exact .inr (.inr rfl)

section Name

variable {requestId contentType name : String}

/-- A name is a plain id, a point and an extension. -/
theorem name_eq_ok_iff : Artifact.name requestId contentType = .ok name ↔ IsPlain requestId ∧
    name.toList = requestId.toList ++ '.' :: (extension contentType).toList := by
  have htext : (s!"{requestId}.{extension contentType}").toList =
      requestId.toList ++ '.' :: (extension contentType).toList := by
    simp [toString]
  unfold Artifact.name
  by_cases hkey : isKey requestId = true
  · rw [if_pos hkey, Except.ok.injEq, ← htext, String.toList_inj, and_iff_right (isKey_iff.mp hkey),
      eq_comm]
  · rw [if_neg hkey]
    exact iff_of_false nofun fun h => hkey (isKey_iff.mpr h.1)

theorem IsPlain.not_mem {c : Char} (h : IsPlain requestId) (hc : isKeyChar c = false) :
    c ∉ requestId.toList := fun hmem =>
  absurd (isKeyChar_iff.mpr (h.2 c hmem)) (ne_true_of_eq_false hc)

/-- A name begins as its id does. -/
theorem exists_cons_of_name (h : Artifact.name requestId contentType = .ok name) :
    ∃ first rest, name.toList = first :: rest ∧ first ≠ '.' := by
  obtain ⟨hplain, hname⟩ := name_eq_ok_iff.mp h
  obtain ⟨first, rest, hid⟩ := List.exists_cons_of_ne_nil (mt String.toList_eq_nil_iff.mp hplain.1)
  refine ⟨first, rest ++ '.' :: (extension contentType).toList, by rw [hname, hid]; rfl, ?_⟩
  rintro rfl
  exact hplain.not_mem rfl (by rw [hid]; exact List.mem_cons_self)

theorem isComponent_of_name (h : Artifact.name requestId contentType = .ok name) :
    IsComponent name := by
  obtain ⟨first, rest, hcons, hfirst⟩ := exists_cons_of_name h
  obtain ⟨hplain, hname⟩ := name_eq_ok_iff.mp h
  refine ⟨?_, ?_, ?_, ?_⟩
  · rintro rfl
    cases hcons
  · rw [hname, List.mem_append, List.mem_cons]
    rintro (hid | hpoint | hextension)
    · exact hplain.not_mem rfl hid
    · cases hpoint
    · rcases extension_cases contentType with he | he | he
      all_goals
        rw [he] at hextension
        exact absurd hextension (by decide)
  · rintro rfl
    exact hfirst (List.cons.inj hcons).1.symm
  · rintro rfl
    exact hfirst (List.cons.inj hcons).1.symm

/-- A name that some request has. -/
def IsName (name : String) : Prop :=
  ∃ requestId contentType, Artifact.name requestId contentType = .ok name

theorem IsName.isComponent (h : IsName name) : IsComponent name :=
  let ⟨_, _, h⟩ := h
  isComponent_of_name h

theorem toList_partialName (name : String) :
    (partialName name).toList = '.' :: (name.toList ++ ".partial".toList) := by
  simp [partialName, toString]

/-- A name is no temporary name. -/
theorem ne_partialName_of_name (h : Artifact.name requestId contentType = .ok name)
    (other : String) : name ≠ partialName other := by
  obtain ⟨first, rest, hcons, hfirst⟩ := exists_cons_of_name h
  rintro rfl
  rw [toList_partialName] at hcons
  exact hfirst (List.cons.inj hcons).1.symm

theorem IsName.ne_partialName (h : IsName name) (other : String) : name ≠ partialName other :=
  let ⟨_, _, h⟩ := h
  ne_partialName_of_name h other

/-- The temporary name of a name is a name for something in a directory, too. -/
theorem isComponent_partialName (h : '/' ∉ name.toList) : IsComponent (partialName name) := by
  have hlong : 2 < (partialName name).toList.length := by
    rw [toList_partialName, List.length_cons, List.length_append]
    change 2 < name.toList.length + 8 + 1
    omega
  refine ⟨?_, ?_, ?_, ?_⟩
  · intro heq
    rw [heq] at hlong
    cases hlong
  · rw [toList_partialName, List.mem_cons, List.mem_append]
    rintro (hpoint | hname | hending)
    · cases hpoint
    · exact h hname
    · exact absurd hending (by decide)
  · intro heq
    rw [heq] at hlong
    exact absurd hlong (by decide)
  · intro heq
    rw [heq] at hlong
    exact absurd hlong (by decide)

/-- What has the name of a request is a request with the same id and a type with the same
extension. -/
theorem name_eq_name_iff {otherId otherType : String}
    (h : Artifact.name requestId contentType = .ok name) :
    Artifact.name otherId otherType = .ok name ↔
      otherId = requestId ∧ extension otherType = extension contentType := by
  obtain ⟨hplain, hname⟩ := name_eq_ok_iff.mp h
  rw [name_eq_ok_iff, hname]
  constructor
  · rintro ⟨hother, heq⟩
    have hsplit := congrArg (Text.splitFirst '.') heq
    rw [Text.splitFirst_append (hplain.not_mem rfl), Text.splitFirst_append (hother.not_mem rfl),
      Option.some.injEq, Prod.mk.injEq, String.toList_inj, String.toList_inj] at hsplit
    exact ⟨hsplit.1.symm, hsplit.2.symm⟩
  · rintro ⟨rfl, hextension⟩
    rw [hextension]
    exact ⟨hplain, rfl⟩

/-- What the name of an artifact is like: it is a single part of a path and no temporary name, and
it tells the id and the extension. -/
structure Names (requestId contentType name : String) : Prop where
  component : IsComponent name
  extension : extension contentType ∈ ["pdf", "json", "bin"]
  ne_partialName : ∀ other, name ≠ partialName other
  tells : ∀ otherId otherType, Artifact.name otherId otherType = .ok name ↔
    otherId = requestId ∧ Artifact.extension otherType = Artifact.extension contentType

theorem names_of_name (h : Artifact.name requestId contentType = .ok name) :
    Names requestId contentType name where
  component := isComponent_of_name h
  extension := by simpa using extension_cases contentType
  ne_partialName := ne_partialName_of_name h
  tells _ _ := name_eq_name_iff h

end Name

end SlideDeck.Artifact
