import SlideDeck.Content.Proposal
import SlideDeck.Proofs.Text.Delimited

/-!
# Replies with other text around the JSON

A capability wraps its JSON in prose or in a code fence. What is decoded is the part between
the outermost marks, so the text around does not matter as long as it holds no mark where
one is looked for.
-/

namespace SlideDeck

open Text (Enclosed IsSlice bounds?)

/-! ## The part between two marks -/

namespace Reply

variable {first last : Char} {front part back cs : List Char}

theorem between?_append (h : Enclosed first last part) (hfront : first ∉ front)
    (hback : last ∉ back) : between? first last (front ++ part ++ back) = some part := by
  have hup : upToLast last (part ++ back) = part := Text.dropWhileEnd_ne_append h.ends hback
  rw [between?, List.append_assoc, Text.dropWhile_ne_append hfront (h.head?_append back), hup]
  obtain ⟨rest, rfl⟩ := List.head?_eq_some_iff.mp h.starts
  rfl

theorem between?_of_not_mem (h : first ∉ cs) : between? first last cs = none := by
  rw [between?, Text.dropWhile_ne_of_not_mem h]
  rfl

theorem between?_append_of_not_mem (hfront : first ∉ front) (hlast : last ∉ first :: back) :
    between? first last (front ++ first :: back) = none := by
  rw [between?, Text.dropWhile_ne_append hfront rfl, upToLast,
    Text.dropWhileEnd_ne_of_not_mem hlast]

/-- What is cut out of a text are its bytes between the marks, and both cuts are between two
characters. -/
theorem between?_slice (hne : first ≠ last) (hsize : last.utf8Size = 1) (s : String) :
    Option.Rel (fun bytes part => IsSlice s (String.ofList part) bytes)
      (bounds? first last s.toList) (between? first last s.toList) := by
  rcases Text.exists_enclosed_or hne s.toList with
    ⟨front, part, back, heq, hpart, hfront, hback⟩ | hfirst | ⟨front, rest, heq, hfront, hlast⟩
  · rw [heq, between?_append hpart hfront hback, hpart.bounds?_append hne hsize hfront hback]
    exact .some (Text.isSlice_of_toList_eq heq)
  · rw [between?_of_not_mem hfirst, Text.bounds?_of_not_mem hfirst]
    exact .none
  · rw [heq, between?_append_of_not_mem hfront hlast,
      Text.bounds?_append_of_not_mem hfront hlast]
    exact .none

/-- The content of a reply depends on the object in it only. -/
theorem content_congr {reply other : String} (h : object? reply.toList = object? other.toList) :
    content reply = content other := by
  rw [content, content, h]

end Reply

/-! ## Arrays and objects of a mapper -/

namespace Proposal

/-- The JSON in the reply of a mapper: an array of slides or an object with entries. -/
inductive Found
  | array (text : List Char)
  | object (text : List Char)
deriving DecidableEq, Repr

/-- What is decoded of a trimmed reply. -/
def found? (cs : List Char) : Option Found :=
  match if startsWithBracket cs then Reply.between? '[' ']' cs else none with
  | some text => some (.array text)
  | none => (Reply.object? cs).map .object

/-- The proposal in the JSON that has been found. -/
def Found.decode? : Found → Option Proposal
  | .array text => do
    let draft ← Json.Draft.parse? (String.ofList text)
    return ⟨← Json.Decoder.list ProposedSlide.decode draft⟩
  | .object text => (Json.Draft.parse? (String.ofList text)).bind decode

theorem ofReply_eq (reply : String) :
    ofReply reply =
      match found? (Text.trimChars reply.toList) with
      | none => .error (.malformed "mapper" .noJson)
      | some found =>
        match found.decode? with
        | some p => .ok p
        | none => .error (.malformed "mapper" .undecodable) := by
  unfold ofReply found? Reply.object?
  generalize Text.trimChars reply.toList = cs
  dsimp only
  cases (if startsWithBracket cs then Reply.between? '[' ']' cs else none) with
  | some text => rfl
  | none => cases Reply.between? '{' '}' cs <;> rfl

theorem ofReply_congr {reply other : String}
    (h : found? (Text.trimChars reply.toList) = found? (Text.trimChars other.toList)) :
    ofReply reply = ofReply other := by
  rw [ofReply_eq, ofReply_eq, h]

theorem startsWithBracket_append {front : List Char} (hbracket : '[' ∉ front)
    (hbrace : '{' ∉ front) (rest : List Char) :
    startsWithBracket (front ++ rest) = startsWithBracket rest := by
  induction front with
  | nil => rfl
  | cons c front ih =>
      obtain ⟨hc, hfront⟩ := not_or.mp (mt List.mem_cons.mpr hbracket)
      obtain ⟨hc', hfront'⟩ := not_or.mp (mt List.mem_cons.mpr hbrace)
      rw [List.cons_append, startsWithBracket, ih hfront hfront']
      · exact Ne.symm hc
      · exact Ne.symm hc'

theorem startsWithBracket_enclosed {first last : Char} {front part : List Char}
    (h : Enclosed first last part) (hmark : first = '[' ∨ first = '{') (hbracket : '[' ∉ front)
    (hbrace : '{' ∉ front) (back : List Char) :
    startsWithBracket (front ++ part ++ back) = (first == '[') := by
  obtain ⟨rest, hrest⟩ := List.head?_eq_some_iff.mp (h.head?_append back)
  rw [List.append_assoc, startsWithBracket_append hbracket hbrace, hrest]
  rcases hmark with rfl | rfl <;> rfl

variable {part : List Char}

/-- An object is found behind text without marks. -/
theorem found?_object (h : Enclosed '{' '}' part) {front back : List Char} (hbrace : '{' ∉ front)
    (hbracket : '[' ∉ front) (hback : '}' ∉ back) :
    found? (Text.trimChars (front ++ part ++ back)) = some (.object part) := by
  obtain ⟨lead, tail, htrim, hlead, htail⟩ := h.exists_trimChars_append rfl rfl front back
  have hform : startsWithBracket (lead ++ part ++ tail) = false :=
    startsWithBracket_enclosed h (.inr rfl) (mt (@hlead _) hbracket) (mt (@hlead _) hbrace) tail
  rw [htrim, found?, hform, Reply.object?,
    Reply.between?_append h (mt (@hlead _) hbrace) (mt (@htail _) hback)]
  rfl

/-- An array is found behind text without marks, whatever braces it holds. -/
theorem found?_array (h : Enclosed '[' ']' part) {front back : List Char} (hbrace : '{' ∉ front)
    (hbracket : '[' ∉ front) (hback : ']' ∉ back) :
    found? (Text.trimChars (front ++ part ++ back)) = some (.array part) := by
  obtain ⟨lead, tail, htrim, hlead, htail⟩ := h.exists_trimChars_append rfl rfl front back
  have hform : startsWithBracket (lead ++ part ++ tail) = true :=
    startsWithBracket_enclosed h (.inl rfl) (mt (@hlead _) hbracket) (mt (@hlead _) hbrace) tail
  rw [htrim, found?, hform, if_pos rfl,
    Reply.between?_append h (mt (@hlead _) hbracket) (mt (@htail _) hback)]

end Proposal

/-- What is around the JSON of a reply changes nothing: the same text is decoded, in the same
form, and so the result is the same, an error included. Whatever is cut out of a text, by
trimming or between marks, begins and ends between two of its characters. -/
theorem decode_amid_prose :
    (∀ lead json tail : String, Enclosed '{' '}' json.toList →
      '{' ∉ lead.toList → '}' ∉ tail.toList →
      Reply.object? (lead ++ json ++ tail).toList = some json.toList ∧
        Reply.content (lead ++ json ++ tail) = Reply.content json) ∧
    (∀ lead json tail : String, Enclosed '{' '}' json.toList →
      '{' ∉ lead.toList → '[' ∉ lead.toList → '}' ∉ tail.toList →
      Proposal.found? (Text.trimChars (lead ++ json ++ tail).toList) =
          some (.object json.toList) ∧
        Proposal.ofReply (lead ++ json ++ tail) = Proposal.ofReply json) ∧
    (∀ lead json tail : String, Enclosed '[' ']' json.toList →
      '{' ∉ lead.toList → '[' ∉ lead.toList → ']' ∉ tail.toList →
      Proposal.found? (Text.trimChars (lead ++ json ++ tail).toList) =
          some (.array json.toList) ∧
        Proposal.ofReply (lead ++ json ++ tail) = Proposal.ofReply json) ∧
    ∀ s : String, (∃ bytes, IsSlice s (Text.trim s) bytes) ∧
      ∀ marks ∈ [('{', '}'), ('[', ']')],
        Option.Rel (fun bytes part => IsSlice s (String.ofList part) bytes)
          (bounds? marks.1 marks.2 s.toList) (Reply.between? marks.1 marks.2 s.toList) := by
  -- the JSON alone is the case of no text around it
  have halone (part : List Char) : [] ++ part ++ [] = part := by simp
  have hnone (c : Char) : c ∉ ([] : List Char) := List.not_mem_nil
  refine ⟨?_, ?_, ?_, ?_⟩
  · intro lead json tail hjson hlead htail
    have hobject : Reply.object? (lead ++ json ++ tail).toList = some json.toList := by
      rw [String.toList_append, String.toList_append]
      exact Reply.between?_append hjson hlead htail
    have hself := Reply.between?_append hjson (hnone '{') (hnone '}')
    rw [halone] at hself
    exact ⟨hobject, Reply.content_congr (hobject.trans hself.symm)⟩
  · intro lead json tail hjson hbrace hbracket htail
    have hfound := Proposal.found?_object hjson hbrace hbracket htail
    have hself := Proposal.found?_object hjson (hnone '{') (hnone '[') (hnone '}')
    rw [halone] at hself
    rw [← String.toList_append, ← String.toList_append] at hfound
    exact ⟨hfound, Proposal.ofReply_congr (hfound.trans hself.symm)⟩
  · intro lead json tail hjson hbrace hbracket htail
    have hfound := Proposal.found?_array hjson hbrace hbracket htail
    have hself := Proposal.found?_array hjson (hnone '{') (hnone '[') (hnone ']')
    rw [halone] at hself
    rw [← String.toList_append, ← String.toList_append] at hfound
    exact ⟨hfound, Proposal.ofReply_congr (hfound.trans hself.symm)⟩
  · refine fun s => ⟨Text.exists_isSlice_trim s, fun marks hmarks => ?_⟩
    rcases List.mem_pair.mp hmarks with rfl | rfl
    · exact Reply.between?_slice (by decide) rfl s
    · exact Reply.between?_slice (by decide) rfl s

/-- An object and an array, with marks in the text behind them. -/
theorem decode_behind_voila :
    (Enclosed '{' '}' "\x7b\"entries\": [[]]\x7d".toList ∧ '{' ∉ "Voilà: ".toList ∧
      '[' ∉ "Voilà: ".toList ∧ '}' ∉ " [sic] é".toList ∧
      Reply.content ("Voilà: " ++ "\x7b\"entries\": [[]]\x7d" ++ " [sic] é") =
        Reply.content "\x7b\"entries\": [[]]\x7d" ∧
      Proposal.ofReply ("Voilà: " ++ "\x7b\"entries\": [[]]\x7d" ++ " [sic] é") =
        Proposal.ofReply "\x7b\"entries\": [[]]\x7d") ∧
    (Enclosed '[' ']' "[\x7b\x7d]".toList ∧ ']' ∉ " \x7b…\x7d".toList ∧
      Proposal.ofReply ("Voilà: " ++ "[\x7b\x7d]" ++ " \x7b…\x7d") =
        Proposal.ofReply "[\x7b\x7d]") ∧
    Option.Rel (fun bytes part => IsSlice " é[]…" (String.ofList part) bytes)
      (bounds? '[' ']' " é[]…".toList) (Reply.between? '[' ']' " é[]…".toList) := by
  have hobject : Enclosed '{' '}' "\x7b\"entries\": [[]]\x7d".toList := ⟨by decide, by decide⟩
  have harray : Enclosed '[' ']' "[\x7b\x7d]".toList := ⟨by decide, by decide⟩
  have hbrace : '{' ∉ "Voilà: ".toList := by decide
  have hbracket : '[' ∉ "Voilà: ".toList := by decide
  have htail : '}' ∉ " [sic] é".toList := by decide
  have htail' : ']' ∉ " \x7b…\x7d".toList := by decide
  refine ⟨⟨hobject, hbrace, hbracket, htail, ?_, ?_⟩, ⟨harray, htail', ?_⟩, ?_⟩
  · exact (decode_amid_prose.1 _ _ _ hobject hbrace htail).2
  · exact (decode_amid_prose.2.1 _ _ _ hobject hbrace hbracket htail).2
  · exact (decode_amid_prose.2.2.1 _ _ _ harray hbrace hbracket htail').2
  · exact (decode_amid_prose.2.2.2 " é[]…").2 ('[', ']') (by decide)

end SlideDeck
