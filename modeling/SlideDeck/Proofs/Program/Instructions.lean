import SlideDeck.Proofs.Program.Expressions

/-!
# Programs that have been written

Every member of an instruction is written, so an instruction comes back when its expressions and
its bodies do, whatever its defaults are. What has been decoded from an instruction has finite
literals only, whether they were written or filled in.
-/

namespace SlideDeck

open Json (Draft Decoder recordOf required_recordOf optional_recordOf nullable_recordOf)

variable {ms : List (String × Json)} {name : String}

/-! ## The members of an instruction -/

namespace Expr

theorem required_toJson {e : Expr} (he : e.HasFiniteLiterals)
    (hj : ms.lookup name = some e.toJson) :
    (recordOf ms).required name decode = some e :=
  required_recordOf hj (decode_toJson he)

theorem optional_toJson {e : Expr} (he : e.HasFiniteLiterals)
    (hj : ms.lookup name = some e.toJson) (absent : Expr) :
    (recordOf ms).optional name absent decode = some e :=
  optional_recordOf hj absent (decode_toJson he)

theorem nullable_toJson {e : Option Expr} (he : ∀ a ∈ e, a.HasFiniteLiterals)
    (hj : ms.lookup name = some (Json.ofOption e toJson)) :
    (recordOf ms).nullable name decode = some e :=
  nullable_recordOf hj fun a ha => ⟨decode_toJson (he a ha), toJson_ne_null (he a ha)⟩

end Expr

theorem FrameExpr.ofRecord_recordOf {f : FrameExpr} (hf : ∀ e ∈ f.exprs, e.HasFiniteLiterals)
    (hmembers : ∀ m ∈ f.members, ms.lookup m.1 = some m.2) :
    FrameExpr.ofRecord (recordOf ms) = some f := by
  simp only [members, exprs, List.forall_mem_cons] at hmembers hf
  obtain ⟨hx, hy, hw, hh, _⟩ := hmembers
  obtain ⟨hfx, hfy, hfw, hfh, _⟩ := hf
  rw [ofRecord, Expr.required_toJson hfx hx, Expr.required_toJson hfy hy,
    Expr.required_toJson hfw hw, Expr.required_toJson hfh hh]
  rfl

theorem PointExpr.decode_toJson {p : PointExpr} (hp : ∀ e ∈ p.exprs, e.HasFiniteLiterals) :
    PointExpr.decode (Draft.ofJson p.toJson) = some p := by
  simp only [exprs, List.forall_mem_cons] at hp
  obtain ⟨hx, hy, _⟩ := hp
  exact Expr.pair_eq_some mk (Expr.decode_toJson hx) (Expr.decode_toJson hy)

section Names

theorem HAlign.looseName_name (a : HAlign) :
    Decoder.looseName ofName? (Draft.ofJson (.string a.name)) = some a := by
  cases a <;> rfl

theorem VAlign.looseName_name (a : VAlign) :
    Decoder.looseName ofName? (Draft.ofJson (.string a.name)) = some a := by
  cases a <;> rfl

theorem FontRole.looseName_name (r : FontRole) :
    Decoder.looseName ofName? (Draft.ofJson (.string r.name)) = some r := by
  cases r <;> rfl

theorem ShapeKind.looseName_name (k : ShapeKind) :
    Decoder.looseName ofName? (Draft.ofJson (.string k.name)) = some k := by
  cases k <;> rfl

theorem ArrowHead.looseName_name (h : ArrowHead) :
    Decoder.looseName ofName? (Draft.ofJson (.string h.name)) = some h := by
  cases h <;> rfl

theorem InstructionKind.decode_name (k : InstructionKind) :
    decode (Draft.ofJson (.string k.name)) = some k := by
  cases k <;> rfl

theorem InstructionKind.decodeInBlock_name (k : InstructionKind) :
    decodeInBlock (Draft.ofJson (.string k.name)) = some k :=
  decode_name k

end Names

theorem TextSpec.decode_members {t : TextSpec} (ht : ∀ e ∈ t.exprs, e.HasFiniteLiterals)
    (hnames : (ms.map Prod.fst).Nodup) (hms : ∀ m ∈ t.members, ms.lookup m.1 = some m.2) :
    TextSpec.decode (Draft.ofJson (.ofMembers ms)) = some t := by
  simp only [exprs, List.cons_append, List.forall_mem_cons, List.forall_mem_append,
    Option.mem_toList] at ht
  obtain ⟨htext, hframe, hsize, hcolor⟩ := ht
  simp only [members, List.cons_append, List.forall_mem_cons, List.forall_mem_append] at hms
  obtain ⟨hmtext, hmframe, hmsize, hmbold, hmitalic, hmface, hmcolor, hmalign, hmvalign, _⟩ := hms
  simp only [decode, Json.record?_ofMembers hnames, Option.bind_eq_bind, Option.bind_some,
    Expr.required_toJson htext hmtext, FrameExpr.ofRecord_recordOf hframe hmframe,
    Expr.optional_toJson hsize hmsize,
    optional_recordOf hmbold _ (Json.bool_ofJson _),
    optional_recordOf hmitalic _ (Json.bool_ofJson _),
    optional_recordOf hmface _ t.face.looseName_name, Expr.nullable_toJson hcolor hmcolor,
    optional_recordOf hmalign _ t.align.looseName_name,
    optional_recordOf hmvalign _ t.valign.looseName_name]
  rfl

theorem ShapeSpec.decode_members {t : ShapeSpec} (ht : ∀ e ∈ t.exprs, e.HasFiniteLiterals)
    (hnames : (ms.map Prod.fst).Nodup) (hms : ∀ m ∈ t.members, ms.lookup m.1 = some m.2) :
    ShapeSpec.decode (Draft.ofJson (.ofMembers ms)) = some t := by
  simp only [exprs, List.forall_mem_append, Option.mem_toList] at ht
  obtain ⟨⟨⟨hframe, hfill⟩, hstroke⟩, hwidth⟩ := ht
  simp only [members, List.cons_append, List.forall_mem_cons, List.forall_mem_append] at hms
  obtain ⟨hmkind, hmframe, hmfill, hmstroke, hmwidth, _⟩ := hms
  simp only [decode, Json.record?_ofMembers hnames, Option.bind_eq_bind, Option.bind_some,
    required_recordOf hmkind t.kind.looseName_name, FrameExpr.ofRecord_recordOf hframe hmframe,
    Expr.nullable_toJson hfill hmfill, Expr.nullable_toJson hstroke hmstroke,
    Expr.nullable_toJson hwidth hmwidth]
  rfl

theorem ConnectorSpec.decode_members {c : ConnectorSpec} (hc : ∀ e ∈ c.exprs, e.HasFiniteLiterals)
    (hnames : (ms.map Prod.fst).Nodup) (hms : ∀ m ∈ c.members, ms.lookup m.1 = some m.2) :
    ConnectorSpec.decode (Draft.ofJson (.ofMembers ms)) = some c := by
  simp only [exprs, List.forall_mem_append, Option.mem_toList] at hc
  obtain ⟨⟨⟨hsource, htarget⟩, hcolor⟩, hwidth⟩ := hc
  simp only [members, List.forall_mem_cons] at hms
  obtain ⟨hmsource, hmtarget, hmhead, hmcolor, hmwidth, _⟩ := hms
  simp only [decode, Json.record?_ofMembers hnames, Option.bind_eq_bind, Option.bind_some,
    required_recordOf hmsource (PointExpr.decode_toJson hsource),
    required_recordOf hmtarget (PointExpr.decode_toJson htarget),
    optional_recordOf hmhead _ c.head.looseName_name, Expr.nullable_toJson hcolor hmcolor,
    Expr.nullable_toJson hwidth hmwidth]
  rfl

/-! ## Instructions -/

namespace Instruction

theorem toJsonAll_eq_map (body : List Instruction) : toJsonAll body = body.map toJson := by
  induction body with
  | nil => rfl
  | cons i rest ih => rw [toJsonAll, ih, List.map_cons]

/-- The members that are written for an instruction. -/
def members : Instruction → List (String × Json)
  | .bind name value =>
    [InstructionKind.bind.member, ("name", .string name), ("value", value.toJson)]
  | .text t => InstructionKind.text.member :: t.members
  | .shape s => InstructionKind.shape.member :: s.members
  | .connector c => InstructionKind.connector.member :: c.members
  | .branch c a b =>
    [InstructionKind.branch.member, ("cond", c.toJson), ("then", .array (toJsonAll a)),
      ("else", .array (toJsonAll b))]
  | .each items binding index body =>
    [InstructionKind.each.member, ("over", items.toJson), ("as", .string binding),
      ("index", Json.ofOption index .string), ("body", .array (toJsonAll body))]

theorem toJson_eq (i : Instruction) : i.toJson = Json.ofMembers i.members := by
  cases i <;> rfl

theorem names_nodup (i : Instruction) : (i.members.map Prod.fst).Nodup := by
  cases i <;>
    simp [members, TextSpec.members, ShapeSpec.members, ConnectorSpec.members, FrameExpr.members,
      InstructionKind.member]

theorem nesting_lt_of_mem_inner {i j : Instruction} (h : j ∈ i.inner) :
    (Draft.ofJson j.toJson).nesting < (Draft.ofJson i.toJson).nesting := by
  have hbody : ∀ {body : List Instruction} {name : String}, j ∈ body →
      (name, .array (toJsonAll body)) ∈ i.members →
      (Draft.ofJson j.toJson).nesting < (Draft.ofJson i.toJson).nesting := by
    intro body name hj hmember
    rw [toJsonAll_eq_map] at hmember
    rw [i.toJson_eq]
    exact (Json.nesting_lt_array (List.mem_map_of_mem hj)).trans (Json.nesting_lt_ofMembers hmember)
  cases i with
  | bind _ _ | text _ | shape _ | connector _ => cases h
  | branch c a b =>
      rcases List.mem_append.mp h with h | h
      · exact hbody h (by simp [members] : ("then", _) ∈ _)
      · exact hbody h (by simp [members] : ("else", _) ∈ _)
  | each items binding index body =>
      exact hbody (show j ∈ body from h) (by simp [members] : ("body", _) ∈ _)

/-- An instruction comes back when those in its bodies do, one level below. -/
theorem decodeNested_succ {i : Instruction} {depth : Nat} {kind : Decoder InstructionKind}
    (hkind : ∀ k : InstructionKind, kind (Draft.ofJson (.string k.name)) = some k)
    (hown : ∀ e ∈ i.ownExprs, e.HasFiniteLiterals)
    (hinner : ∀ j ∈ i.inner, decodeNested depth InstructionKind.decodeInBlock
      (Draft.ofJson j.toJson) = some j)
    (hnames : (ms.map Prod.fst).Nodup) (hms : ∀ m ∈ i.members, ms.lookup m.1 = some m.2) :
    decodeNested (depth + 1) kind (Draft.ofJson (.ofMembers ms)) = some i := by
  have hblock : ∀ {body : List Instruction}, body ⊆ i.inner →
      Decoder.list (decodeNested depth InstructionKind.decodeInBlock)
        (Draft.ofJson (.array (toJsonAll body))) = some body := by
    intro body hbody
    rw [toJsonAll_eq_map]
    exact Json.list_map fun j hj => hinner j (hbody hj)
  have hop : ∀ {k : InstructionKind}, k.member ∈ i.members →
      (Draft.ofJson (.ofMembers ms)).tagged? "op" =
        some ⟨Draft.ofJson (.string k.name), Draft.ofJson (.ofMembers ms)⟩ :=
    fun hmember => Json.tagged?_ofMembers hnames (hms _ hmember)
  rw [decodeNested]
  simp only [Option.bind_eq_bind]
  cases i with
  | bind name value =>
      obtain ⟨hmname, hmvalue, _⟩ := List.forall_mem_cons.mp (List.forall_mem_cons.mp hms).2
        |>.imp_right List.forall_mem_cons.mp
      simp only [hop List.mem_cons_self, Option.bind_some, hkind, Json.record?_ofMembers hnames,
        required_recordOf hmname (Json.string_ofJson name),
        Expr.required_toJson (hown value (List.mem_singleton_self value)) hmvalue]
      rfl
  | text t =>
      simp only [hop List.mem_cons_self, Option.bind_some, hkind,
        TextSpec.decode_members hown hnames (List.forall_mem_cons.mp hms).2]
      rfl
  | shape s =>
      simp only [hop List.mem_cons_self, Option.bind_some, hkind,
        ShapeSpec.decode_members hown hnames (List.forall_mem_cons.mp hms).2]
      rfl
  | connector c =>
      simp only [hop List.mem_cons_self, Option.bind_some, hkind,
        ConnectorSpec.decode_members hown hnames (List.forall_mem_cons.mp hms).2]
      rfl
  | branch c a b =>
      simp only [members, List.forall_mem_cons] at hms
      obtain ⟨_, hmcond, hmthen, hmelse, _⟩ := hms
      simp only [hop List.mem_cons_self, Option.bind_some, hkind, Json.record?_ofMembers hnames,
        Expr.required_toJson (hown c (List.mem_singleton_self c)) hmcond,
        optional_recordOf hmthen _ (hblock (List.subset_append_left a b)),
        optional_recordOf hmelse _ (hblock (List.subset_append_right a b))]
      rfl
  | each items binding index body =>
      simp only [members, List.forall_mem_cons] at hms
      obtain ⟨_, hmover, hmas, hmindex, hmbody, _⟩ := hms
      simp only [hop List.mem_cons_self, Option.bind_some, hkind, Json.record?_ofMembers hnames,
        Expr.required_toJson (hown items (List.mem_singleton_self items)) hmover,
        required_recordOf hmas (Json.string_ofJson binding),
        nullable_recordOf hmindex fun s _ => ⟨Json.string_ofJson s, Json.noConfusion⟩,
        required_recordOf hmbody (hblock (List.Subset.refl body))]
      rfl

/-- An instruction of finite literals comes back wherever there is room for its nesting. -/
theorem decodeNested_toJson (i : Instruction) :
    ∀ {depth : Nat} {kind : Decoder InstructionKind},
      (∀ k : InstructionKind, kind (Draft.ofJson (.string k.name)) = some k) →
      i.HasFiniteLiterals → (Draft.ofJson i.toJson).nesting ≤ depth →
      decodeNested depth kind (Draft.ofJson i.toJson) = some i := by
  induction i using innerInduction with
  | step i ih =>
      intro depth kind hkind hfinite hdepth
      obtain ⟨hown, hinner⟩ := hasFiniteLiterals_iff.mp hfinite
      cases depth with
      | zero =>
          rw [i.toJson_eq] at hdepth
          exact absurd hdepth (Nat.not_succ_le_zero _)
      | succ depth =>
          rw [i.toJson_eq]
          refine decodeNested_succ hkind hown (fun j hj => ?_) i.names_nodup
            fun m hm => Json.lookup_eq_of_mem i.names_nodup hm
          have hless := nesting_lt_of_mem_inner hj
          exact ih j hj InstructionKind.decodeInBlock_name (hinner j hj) (by omega)

/-- The form of an instruction is in normal form. -/
theorem isNormal_toJson (i : Instruction) : i.toJson.IsNormal := by
  have hoption : ∀ e : Option Expr, (Json.ofOption e Expr.toJson).IsNormal :=
    fun e => Json.isNormal_ofOption e Expr.isNormal_toJson
  have hpoint : ∀ p : PointExpr, p.toJson.IsNormal :=
    fun p => ⟨p.x.isNormal_toJson, p.y.isNormal_toJson, trivial⟩
  induction i using innerInduction with
  | step i ih =>
      have hbody : ∀ {body : List Instruction}, body ⊆ i.inner →
          (Json.array (toJsonAll body)).IsNormal := by
        intro body hbody
        rw [toJsonAll_eq_map]
        exact Json.isNormal_array_map fun j hj => ih j (hbody hj)
      rw [i.toJson_eq]
      refine Json.isNormal_ofMembers i.names_nodup ?_
      cases i with
      | bind name value => simp [members, InstructionKind.member, value.isNormal_toJson]
      | text t =>
          simp [members, InstructionKind.member, TextSpec.members, FrameExpr.members,
            Expr.isNormal_toJson, hoption]
      | shape s =>
          simp [members, InstructionKind.member, ShapeSpec.members, FrameExpr.members,
            Expr.isNormal_toJson, hoption]
      | connector c =>
          simp [members, InstructionKind.member, ConnectorSpec.members, hpoint, hoption]
      | branch c a b =>
          have ha := hbody (List.subset_append_left a b)
          have hb := hbody (List.subset_append_right a b)
          simp [members, InstructionKind.member, c.isNormal_toJson, ha, hb]
      | each items binding index body =>
          have hindex := Json.isNormal_ofOption index Json.isNormal_string
          have hinner := hbody (List.Subset.refl body)
          simp [members, InstructionKind.member, items.isNormal_toJson, hindex, hinner]

/-- An instruction of finite literals comes back. -/
theorem decode_toJson {i : Instruction} (h : i.HasFiniteLiterals) :
    decode (Draft.ofJson i.toJson) = some i := by
  have hvalue := Draft.value?_ofJson i.toJson i.isNormal_toJson
  rw [decode, Decoder.whole, hvalue]
  exact decodeNested_toJson i InstructionKind.decode_name h le_rfl

end Instruction

namespace RenderProgram

/-- The form of a program is in normal form. -/
theorem isNormal_toJson (p : RenderProgram) : p.toJson.IsNormal := by
  have hbody : (Json.array (Instruction.toJsonAll p.body)).IsNormal := by
    rw [Instruction.toJsonAll_eq_map]
    exact Json.isNormal_array_map fun i _ => i.isNormal_toJson
  exact Json.isNormal_ofMembers (List.nodup_singleton _) (List.forall_mem_singleton.mpr hbody)

/-- A program of finite literals comes back. -/
theorem decode_toJson {p : RenderProgram} (h : p.HasFiniteLiterals) :
    decode (Draft.ofJson p.toJson) = some p := by
  have hbody : Decoder.list Instruction.decode
      (Draft.ofJson (.array (Instruction.toJsonAll p.body))) = some p.body := by
    rw [Instruction.toJsonAll_eq_map]
    exact Json.list_map fun i hi => Instruction.decode_toJson (hasFiniteLiterals_iff.mp h i hi)
  have hnames : ([("body", Json.array (Instruction.toJsonAll p.body))].map Prod.fst).Nodup :=
    List.nodup_singleton "body"
  simp only [decode, toJson, Json.record?_ofMembers hnames, Option.bind_eq_bind, Option.bind_some,
    optional_recordOf List.lookup_cons_self _ hbody]
  rfl

end RenderProgram

/-! ## What has been decoded -/

section Decoded

variable {r : Json.Record} {d : Draft}

namespace Expr

theorem hasFiniteLiterals_of_required {e : Expr} (h : r.required name decode = some e) :
    e.HasFiniteLiterals := by
  obtain ⟨_, hdecode⟩ := Json.exists_of_required h
  exact hasFiniteLiterals_of_decode hdecode

theorem hasFiniteLiterals_of_optional {absent e : Expr} (habsent : absent.HasFiniteLiterals)
    (h : r.optional name absent decode = some e) : e.HasFiniteLiterals := by
  obtain rfl | ⟨_, hdecode⟩ := Json.exists_of_optional h
  · exact habsent
  · exact hasFiniteLiterals_of_decode hdecode

theorem hasFiniteLiterals_of_nullable {e : Option Expr} (h : r.nullable name decode = some e) :
    ∀ a ∈ e, a.HasFiniteLiterals := by
  intro a ha
  obtain ⟨_, hdecode⟩ := Json.exists_of_nullable h a ha
  exact hasFiniteLiterals_of_decode hdecode

end Expr

theorem FrameExpr.hasFiniteLiterals_of_ofRecord {f : FrameExpr} (h : ofRecord r = some f) :
    ∀ e ∈ f.exprs, e.HasFiniteLiterals := by
  simp only [ofRecord, Option.bind_eq_bind, Option.bind_eq_some_iff] at h
  obtain ⟨x, hx, y, hy, w, hw, h', hh, ⟨⟩⟩ := h
  simp only [exprs, List.forall_mem_cons]
  exact ⟨Expr.hasFiniteLiterals_of_required hx, Expr.hasFiniteLiterals_of_required hy,
    Expr.hasFiniteLiterals_of_required hw, Expr.hasFiniteLiterals_of_required hh,
    List.forall_mem_nil _⟩

theorem PointExpr.hasFiniteLiterals_of_decode {p : PointExpr} (h : decode d = some p) :
    ∀ e ∈ p.exprs, e.HasFiniteLiterals := by
  unfold decode at h
  split at h
  next =>
    simp only [Option.bind_eq_bind, Option.bind_eq_some_iff] at h
    obtain ⟨x, hx, y, hy, ⟨⟩⟩ := h
    simp only [exprs, List.forall_mem_cons]
    exact ⟨Expr.hasFiniteLiterals_of_decode hx, Expr.hasFiniteLiterals_of_decode hy,
      List.forall_mem_nil _⟩
  next => cases h

theorem TextSpec.hasFiniteLiterals_of_decode {t : TextSpec} (h : decode d = some t) :
    ∀ e ∈ t.exprs, e.HasFiniteLiterals := by
  simp only [decode, Option.bind_eq_bind, Option.bind_eq_some_iff] at h
  obtain ⟨r, _, text, htext, f, hframe, size, hsize, _, _, _, _, _, _, color, hcolor, _, _, _, _,
    ⟨⟩⟩ := h
  have hdefault : (Expr.number 14).HasFiniteLiterals := List.forall_mem_singleton.mpr (by decide)
  simp only [exprs, List.cons_append, List.forall_mem_cons, List.forall_mem_append,
    Option.mem_toList]
  exact ⟨Expr.hasFiniteLiterals_of_required htext, FrameExpr.hasFiniteLiterals_of_ofRecord hframe,
    Expr.hasFiniteLiterals_of_optional hdefault hsize, Expr.hasFiniteLiterals_of_nullable hcolor⟩

theorem ShapeSpec.hasFiniteLiterals_of_decode {s : ShapeSpec} (h : decode d = some s) :
    ∀ e ∈ s.exprs, e.HasFiniteLiterals := by
  simp only [decode, Option.bind_eq_bind, Option.bind_eq_some_iff] at h
  obtain ⟨r, _, _, _, f, hframe, fill, hfill, stroke, hstroke, width, hwidth, ⟨⟩⟩ := h
  simp only [exprs, List.forall_mem_append, Option.mem_toList]
  exact ⟨⟨⟨FrameExpr.hasFiniteLiterals_of_ofRecord hframe,
    Expr.hasFiniteLiterals_of_nullable hfill⟩, Expr.hasFiniteLiterals_of_nullable hstroke⟩,
    Expr.hasFiniteLiterals_of_nullable hwidth⟩

theorem ConnectorSpec.hasFiniteLiterals_of_decode {c : ConnectorSpec} (h : decode d = some c) :
    ∀ e ∈ c.exprs, e.HasFiniteLiterals := by
  simp only [decode, Option.bind_eq_bind, Option.bind_eq_some_iff] at h
  obtain ⟨r, _, source, hsource, target, htarget, _, _, color, hcolor, width, hwidth, ⟨⟩⟩ := h
  have hpoint : ∀ {name : String} {p : PointExpr}, r.required name PointExpr.decode = some p →
      ∀ e ∈ p.exprs, e.HasFiniteLiterals := by
    intro name p hp
    obtain ⟨_, hdecode⟩ := Json.exists_of_required hp
    exact PointExpr.hasFiniteLiterals_of_decode hdecode
  simp only [exprs, List.forall_mem_append, Option.mem_toList]
  exact ⟨⟨⟨hpoint hsource, hpoint htarget⟩, Expr.hasFiniteLiterals_of_nullable hcolor⟩,
    Expr.hasFiniteLiterals_of_nullable hwidth⟩

/-- The literals of an instruction that has been decoded are finite. -/
theorem Instruction.hasFiniteLiterals_of_decodeNested {depth : Nat}
    {kind : Decoder InstructionKind} {i : Instruction} (h : decodeNested depth kind d = some i) :
    i.HasFiniteLiterals := by
  induction depth generalizing kind d i with
  | zero => cases h
  | succ depth ih =>
      have hlist : ∀ {d : Draft} {body : List Instruction},
          Decoder.list (decodeNested depth InstructionKind.decodeInBlock) d = some body →
          ∀ j ∈ body, j.HasFiniteLiterals := by
        intro d body hbody j hj
        obtain ⟨_, hdecode⟩ := Json.exists_of_mem_list hbody hj
        exact ih hdecode
      have hoptional : ∀ {r : Json.Record} {name : String} {body : List Instruction},
          r.optional name [] (Decoder.list (decodeNested depth InstructionKind.decodeInBlock)) =
            some body → ∀ j ∈ body, j.HasFiniteLiterals := by
        intro r name body hbody
        obtain rfl | ⟨_, hlisted⟩ := Json.exists_of_optional hbody
        · exact List.forall_mem_nil _
        · exact hlist hlisted
      simp only [decodeNested, Option.bind_eq_bind, Option.bind_eq_some_iff] at h
      obtain ⟨_, _, k, _, h⟩ := h
      rw [hasFiniteLiterals_iff]
      cases k with
      | bind =>
          simp only [Option.bind_eq_some_iff] at h
          obtain ⟨r, _, _, _, value, hvalue, ⟨⟩⟩ := h
          exact ⟨List.forall_mem_singleton.mpr (Expr.hasFiniteLiterals_of_required hvalue),
            List.forall_mem_nil _⟩
      | text =>
          obtain ⟨t, ht, rfl⟩ := Option.map_eq_some_iff.mp h
          exact ⟨TextSpec.hasFiniteLiterals_of_decode ht, List.forall_mem_nil _⟩
      | shape =>
          obtain ⟨s, hs, rfl⟩ := Option.map_eq_some_iff.mp h
          exact ⟨ShapeSpec.hasFiniteLiterals_of_decode hs, List.forall_mem_nil _⟩
      | connector =>
          obtain ⟨c, hc, rfl⟩ := Option.map_eq_some_iff.mp h
          exact ⟨ConnectorSpec.hasFiniteLiterals_of_decode hc, List.forall_mem_nil _⟩
      | branch =>
          simp only [Option.bind_eq_some_iff] at h
          obtain ⟨r, _, c, hc, a, ha, b, hb, ⟨⟩⟩ := h
          exact ⟨List.forall_mem_singleton.mpr (Expr.hasFiniteLiterals_of_required hc),
            List.forall_mem_append.mpr ⟨hoptional ha, hoptional hb⟩⟩
      | each =>
          simp only [Option.bind_eq_some_iff] at h
          obtain ⟨r, _, items, hitems, _, _, _, _, body, hbody, ⟨⟩⟩ := h
          obtain ⟨_, hlisted⟩ := Json.exists_of_required hbody
          exact ⟨List.forall_mem_singleton.mpr (Expr.hasFiniteLiterals_of_required hitems),
            hlist hlisted⟩

/-- The literals of a program that has been decoded are finite. -/
theorem RenderProgram.hasFiniteLiterals_of_decode {p : RenderProgram} (h : decode d = some p) :
    p.HasFiniteLiterals := by
  simp only [decode, Option.bind_eq_bind, Option.bind_eq_some_iff] at h
  obtain ⟨r, _, body, hbody, ⟨⟩⟩ := h
  rw [hasFiniteLiterals_iff]
  obtain rfl | ⟨_, hlisted⟩ := Json.exists_of_optional hbody
  · exact List.forall_mem_nil _
  · intro i hi
    obtain ⟨_, hdecode⟩ := Json.exists_of_mem_list hlisted hi
    unfold Instruction.decode Decoder.whole at hdecode
    split at hdecode
    next => exact Instruction.hasFiniteLiterals_of_decodeNested hdecode
    next => cases hdecode

end Decoded

end SlideDeck
