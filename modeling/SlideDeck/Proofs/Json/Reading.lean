import SlideDeck.Json.Parser
import SlideDeck.Json.Printer
import SlideDeck.Proofs.Json.Numbers

/-!
# Reading back

There is one way to read the text of a value: the first character tells the kind, a string ends
at the first quote that no backslash escapes, and a number ends in front of a character that
numbers do not have. So no value has the text of another one, whatever its strings contain.
-/

namespace SlideDeck.Json

/-! ## Strings -/

theorem hexQuad?_control {n : Nat} (h : n < 0x20) :
    hexQuad? '0' '0' (hexDigit (n / 16)) (hexDigit n) = some n := by
  revert n
  decide

/-- A character is read as its code, escaped or not. -/
theorem readCodes_escapeChar (done : List Nat) (c : Char) (rest : List Char) :
    readCodes done (escapeChar c ++ rest) = readCodes (c.toNat :: done) rest := by
  unfold escapeChar
  split
  case h_8 hquote hslash _ _ _ _ _ =>
    split
    next hcontrol => simp [readCodes, hexQuad?_control hcontrol]
    next hplain =>
      rw [List.singleton_append, readCodes, if_neg hplain]
      · exact hquote
      · rintro _ _ _ _ _ rfl
        exact absurd rfl hslash
      · rintro _ _ rfl
        exact absurd rfl hslash
  -- the seven escapes of one letter
  all_goals rfl

theorem readCodes_flatMap_escapeChar (done : List Nat) (cs rest : List Char) :
    readCodes done (cs.flatMap escapeChar ++ '"' :: rest) =
      some (done.reverse ++ cs.map Char.toNat, rest) := by
  induction cs generalizing done with
  | nil => simp [readCodes]
  | cons c cs ih =>
    rw [List.flatMap_cons, List.append_assoc, readCodes_escapeChar, ih]
    simp

/-- Codes of characters are no surrogates. -/
theorem charsOfCodes?_map_toNat (done cs : List Char) :
    charsOfCodes? done (cs.map Char.toNat) = some (cs.reverse ++ done) := by
  induction cs generalizing done with
  | nil => rfl
  | cons c cs ih =>
    have hvalid : c.toNat < 0xD800 ∨ 0xDFFF < c.toNat ∧ c.toNat < 0x110000 := c.valid
    have hhigh : isHighSurrogate c.toNat = false := by
      rw [isHighSurrogate, Bool.and_eq_false_iff, decide_eq_false_iff_not,
        decide_eq_false_iff_not]
      omega
    have hlow : isLowSurrogate c.toNat = false := by
      rw [isLowSurrogate, Bool.and_eq_false_iff, decide_eq_false_iff_not,
        decide_eq_false_iff_not]
      omega
    unfold charsOfCodes?
    simp [hhigh, hlow, ih]

/-- A string is read as it was, up to its closing quote and no further. -/
theorem readString_renderString (s : String) (rest : List Char) :
    readString (s.toList.flatMap escapeChar ++ '"' :: rest) = some (some s, rest) := by
  rw [readString, readCodes_flatMap_escapeChar]
  simp [textOfCodes?, charsOfCodes?_map_toNat]

theorem renderString_append_inj {s t : String} {rest rest' : List Char}
    (h : renderString s ++ rest = renderString t ++ rest') : s = t ∧ rest = rest' := by
  have hread : readString (s.toList.flatMap escapeChar ++ '"' :: rest) =
      readString (t.toList.flatMap escapeChar ++ '"' :: rest') := by
    simpa [renderString] using congrArg (fun cs => readString cs.tail) h
  simpa [readString_renderString] using hread

/-! ## Values -/

/-- The kind of the values whose text starts with a character. -/
def kindOfFirst? (c : Char) : Option Kind :=
  if c = '-' ∨ c.isDigit = true then some .number
  else
    match c with
    | 'n' => some .null
    | 't' | 'f' => some .boolean
    | '"' => some .string
    | '[' => some .array
    | '{' => some .object
    | _ => none

theorem exists_render_eq_cons (j : Json) :
    ∃ first rest, j.render = first :: rest ∧ kindOfFirst? first = some j.kind := by
  cases j with
  | null => exact ⟨_, _, rfl, rfl⟩
  | bool value => cases value <;> exact ⟨_, _, rfl, rfl⟩
  | number n =>
      obtain ⟨first, rest, hrender, hfirst⟩ := n.exists_render_eq_cons
      exact ⟨first, rest, hrender, if_pos hfirst⟩
  | string s => exact ⟨_, _, rfl, rfl⟩
  | array items => cases items <;> exact ⟨_, _, by rw [render], rfl⟩
  | object members =>
      match members with
      | [] | (_, _) :: _ => exact ⟨_, _, by rw [render], rfl⟩

/-- What follows does not start like the rest of a number. -/
def EndsNumber (rest : List Char) : Prop := ∀ c ∈ rest.head?, Text.isNumberChar c = false

variable {a b : Json} {rest rest' : List Char}

theorem kind_eq_of_render_append (h : a.render ++ rest = b.render ++ rest') : a.kind = b.kind := by
  obtain ⟨first, _, hrender, hkind⟩ := exists_render_eq_cons a
  obtain ⟨first', _, hrender', hkind'⟩ := exists_render_eq_cons b
  rw [hrender, hrender', List.cons_append, List.cons_append, List.cons.injEq] at h
  rw [h.1, hkind', Option.some.injEq] at hkind
  exact hkind.symm

theorem takeWhile_isNumberChar {n : Number} (hrest : EndsNumber rest) :
    (n.render ++ rest).takeWhile Text.isNumberChar = n.render := by
  rw [List.takeWhile_append_of_pos fun _ => Number.isNumberChar_of_mem_render]
  cases rest with
  | nil => simp
  | cons c rest => simp [hrest c rfl]

theorem number_append_inj {m n : Number} (hrest : EndsNumber rest) (hrest' : EndsNumber rest')
    (h : m.render ++ rest = n.render ++ rest') : m = n ∧ rest = rest' := by
  have htext : m.render = n.render := by
    rw [← takeWhile_isNumberChar hrest, h, takeWhile_isNumberChar hrest']
  rw [htext] at h
  exact ⟨Number.render_injective htext, List.append_cancel_left h⟩

/-- Items and members are followed by a comma or a closing bracket. -/
theorem endsNumber_renderItems (items : List Json) (rest : List Char) :
    EndsNumber (renderItems items ++ rest) := by
  intro c hc
  cases items <;> obtain rfl : _ = c := by simpa [renderItems] using hc
  all_goals rfl

theorem endsNumber_renderMembers (members : List (String × Json)) (rest : List Char) :
    EndsNumber (renderMembers members ++ rest) := by
  intro c hc
  cases members <;> obtain rfl : _ = c := by simpa [renderMembers] using hc
  all_goals rfl

theorem render_append_ne_bracket (j : Json) (rest rest' : List Char) :
    j.render ++ rest ≠ ']' :: rest' := by
  obtain ⟨first, back, hrender, hkind⟩ := exists_render_eq_cons j
  rw [hrender, List.cons_append]
  intro h
  obtain ⟨rfl, _⟩ := List.cons.inj h
  cases hkind

/-- Behind the opening bracket the first item reads like the others behind their commas. -/
theorem renderItems_append_eq {xs ys : List Json}
    (h : (array xs).render ++ rest = (array ys).render ++ rest') :
    renderItems xs ++ rest = renderItems ys ++ rest' := by
  cases xs with
  | nil =>
      cases ys with
      | nil => simpa [render, renderItems] using h
      | cons y ys =>
          simp only [render, List.cons_append, List.append_assoc, List.cons.injEq] at h
          exact absurd h.2.symm (render_append_ne_bracket y _ _)
  | cons x xs =>
      cases ys with
      | nil =>
          simp only [render, List.cons_append, List.append_assoc, List.cons.injEq] at h
          exact absurd h.2 (render_append_ne_bracket x _ _)
      | cons y ys => simpa [render, renderItems] using h

theorem renderMembers_append_eq {xs ys : List (String × Json)}
    (h : (object xs).render ++ rest = (object ys).render ++ rest') :
    renderMembers xs ++ rest = renderMembers ys ++ rest' := by
  match xs, ys with
  | [], [] | (_, _) :: _, (_, _) :: _ => simpa [render, renderMembers] using h
  | [], (_, _) :: _ | (_, _) :: _, [] => simp [render, renderString] at h

mutual

/-- The text of a value is read in one way, whatever follows it that no number goes on with. -/
theorem render_append_inj (a b : Json) {rest rest' : List Char} (hrest : EndsNumber rest)
    (hrest' : EndsNumber rest') (h : a.render ++ rest = b.render ++ rest') :
    a = b ∧ rest = rest' := by
  -- the first characters leave one case for each kind
  have hkind := kind_eq_of_render_append h
  cases a with
  | null =>
      cases b with
      | null => exact ⟨rfl, List.append_cancel_left h⟩
      | _ => cases hkind
  | bool u =>
      cases b with
      | bool v => cases u <;> cases v <;> simp_all [render]
      | _ => cases hkind
  | number m =>
      cases b with
      | number n =>
          obtain ⟨rfl, hback⟩ := number_append_inj hrest hrest' h
          exact ⟨rfl, hback⟩
      | _ => cases hkind
  | string s =>
      cases b with
      | string t =>
          obtain ⟨rfl, hback⟩ := renderString_append_inj h
          exact ⟨rfl, hback⟩
      | _ => cases hkind
  | array xs =>
      cases b with
      | array ys =>
          obtain ⟨rfl, hback⟩ := renderItems_append_inj xs ys (renderItems_append_eq h)
          exact ⟨rfl, hback⟩
      | _ => cases hkind
  | object xs =>
      cases b with
      | object ys =>
          obtain ⟨rfl, hback⟩ := renderMembers_append_inj xs ys (renderMembers_append_eq h)
          exact ⟨rfl, hback⟩
      | _ => cases hkind

theorem renderItems_append_inj (xs ys : List Json) {rest rest' : List Char}
    (h : renderItems xs ++ rest = renderItems ys ++ rest') : xs = ys ∧ rest = rest' := by
  match xs, ys with
  | [], [] => exact ⟨rfl, List.append_cancel_left h⟩
  | [], _ :: _ | _ :: _, [] => simp [renderItems] at h
  | x :: xs, y :: ys =>
      simp only [renderItems, List.cons_append, List.append_assoc, List.cons.injEq] at h
      obtain ⟨rfl, hitems⟩ := render_append_inj x y (endsNumber_renderItems xs rest)
        (endsNumber_renderItems ys rest') h.2
      obtain ⟨rfl, hback⟩ := renderItems_append_inj xs ys hitems
      exact ⟨rfl, hback⟩

theorem renderMembers_append_inj (xs ys : List (String × Json)) {rest rest' : List Char}
    (h : renderMembers xs ++ rest = renderMembers ys ++ rest') : xs = ys ∧ rest = rest' := by
  match xs, ys with
  | [], [] => exact ⟨rfl, List.append_cancel_left h⟩
  | [], (_, _) :: _ | (_, _) :: _, [] => simp [renderMembers] at h
  | (k, x) :: xs, (l, y) :: ys =>
      simp only [renderMembers, List.cons_append, List.append_assoc, List.cons.injEq] at h
      obtain ⟨rfl, hvalue⟩ := renderString_append_inj h.2
      rw [List.cons.injEq] at hvalue
      obtain ⟨rfl, hmembers⟩ := render_append_inj x y (endsNumber_renderMembers xs rest)
        (endsNumber_renderMembers ys rest') hvalue.2
      obtain ⟨rfl, hback⟩ := renderMembers_append_inj xs ys hmembers
      exact ⟨rfl, hback⟩

end

/-- Different values have different texts. -/
theorem render_injective (h : a.render = b.render) : a = b := by
  have hend : EndsNumber [] := by simp [EndsNumber]
  exact (render_append_inj a b hend hend (by rw [h])).1

end SlideDeck.Json
