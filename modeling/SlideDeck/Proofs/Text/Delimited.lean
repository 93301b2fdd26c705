import SlideDeck.Proofs.Text.Trimming

/-!
# Parts of a text between two marks

A part that starts with one mark and ends with another is cut out of a text at the first
occurrence of the one and the last occurrence of the other. Marks are found by the bytes in
front of them; a part that is cut out begins and ends between two characters.
-/

namespace SlideDeck.Text

/-- A text starts with one character and ends with another. -/
structure Enclosed (first last : Char) (cs : List Char) : Prop where
  starts : cs.head? = some first
  ends : cs.getLast? = some last

variable {first last c : Char} {cs part : List Char}

/-! ## Dropping what is around -/

theorem dropWhile_append_of_head (p : Char → Bool) (hhead : cs.head? = some c) (hc : p c = false)
    (front : List Char) : (front ++ cs).dropWhile p = front.dropWhile p ++ cs := by
  obtain ⟨rest, rfl⟩ := List.head?_eq_some_iff.mp hhead
  rw [List.dropWhile_append]
  split
  next hempty =>
    rw [List.isEmpty_iff.mp hempty, List.nil_append]
    exact List.dropWhile_cons_of_neg (ne_true_of_eq_false hc)
  next => rfl

theorem dropWhileEnd_append_of_getLast (p : Char → Bool) (hlast : cs.getLast? = some c)
    (hc : p c = false) (back : List Char) :
    dropWhileEnd p (cs ++ back) = cs ++ dropWhileEnd p back := by
  have hhead : cs.reverse.head? = some c := by rw [List.head?_reverse, hlast]
  unfold dropWhileEnd
  rw [List.reverse_append, dropWhile_append_of_head p hhead hc, List.reverse_append,
    List.reverse_reverse]

theorem dropWhile_ne_of_not_mem (h : c ∉ cs) : cs.dropWhile (fun d => d != c) = [] := by
  rw [List.dropWhile_eq_nil_iff]
  exact fun d hd => bne_iff_ne.mpr fun heq => h (heq ▸ hd)

theorem dropWhileEnd_ne_of_not_mem (h : c ∉ cs) : dropWhileEnd (fun d => d != c) cs = [] := by
  rw [dropWhileEnd_eq_rdropWhile, List.rdropWhile_eq_nil_iff]
  exact fun d hd => bne_iff_ne.mpr fun heq => h (heq ▸ hd)

/-- Dropping up to a character stops at its first occurrence. -/
theorem dropWhile_ne_append {front : List Char} (hfront : c ∉ front) (hhead : cs.head? = some c) :
    (front ++ cs).dropWhile (fun d => d != c) = cs := by
  rw [dropWhile_append_of_head (fun d => d != c) hhead (bne_self_eq_false c),
    dropWhile_ne_of_not_mem hfront, List.nil_append]

/-- Dropping down to a character stops at its last occurrence. -/
theorem dropWhileEnd_ne_append {back : List Char} (hlast : cs.getLast? = some c)
    (hback : c ∉ back) : dropWhileEnd (fun d => d != c) (cs ++ back) = cs := by
  rw [dropWhileEnd_append_of_getLast (fun d => d != c) hlast (bne_self_eq_false c),
    dropWhileEnd_ne_of_not_mem hback, List.append_nil]

namespace Enclosed

theorem getLast?_append (h : Enclosed first last part) (front : List Char) :
    (front ++ part).getLast? = some last := by
  rw [List.getLast?_append, h.ends]
  rfl

theorem head?_append (h : Enclosed first last part) (back : List Char) :
    (part ++ back).head? = some first := by
  rw [List.head?_append, h.starts]
  rfl

/-- Trimming takes away from the text around, not from a part without outer blanks. -/
theorem exists_trimChars_append (h : Enclosed first last part) (hfirst : isBlank first = false)
    (hlast : isBlank last = false) (front back : List Char) :
    ∃ lead tail, trimChars (front ++ part ++ back) = lead ++ part ++ tail ∧
      lead ⊆ front ∧ tail ⊆ back := by
  refine ⟨front.dropWhile isBlank, dropWhileEnd isBlank back, ?_,
    (List.dropWhile_suffix isBlank).subset, (isPrefix_dropWhileEnd isBlank back).subset⟩
  unfold trimChars
  rw [List.append_assoc, dropWhile_append_of_head _ (h.head?_append back) hfirst,
    ← List.append_assoc, dropWhileEnd_append_of_getLast _ (h.getLast?_append _) hlast]

end Enclosed

/-! ## Offsets in bytes -/

/-- The bytes of a text. -/
@[simp]
def byteLength : List Char → Nat
  | [] => 0
  | c :: rest => c.utf8Size + byteLength rest

@[simp]
theorem byteLength_append (front back : List Char) :
    byteLength (front ++ back) = byteLength front + byteLength back := by
  induction front with
  | nil => simp
  | cons c rest ih => simp [ih, Nat.add_assoc]

theorem utf8ByteSize_ofList (cs : List Char) : (String.ofList cs).utf8ByteSize = byteLength cs := by
  induction cs with
  | nil => rfl
  | cons c rest ih =>
      rw [← List.singleton_append, String.ofList_append, String.utf8ByteSize_append, ih,
        byteLength_append, ← String.singleton_eq_ofList, String.utf8ByteSize_singleton]
      simp

/-- The bytes in front of the first occurrence of a character. -/
def firstByte? (c : Char) : List Char → Option Nat
  | [] => none
  | d :: rest => if d = c then some 0 else (firstByte? c rest).map (d.utf8Size + ·)

/-- The bytes in front of the last occurrence of a character. -/
def lastByte? (c : Char) : List Char → Option Nat
  | [] => none
  | d :: rest =>
    match lastByte? c rest with
    | some offset => some (d.utf8Size + offset)
    | none => if d = c then some 0 else none

theorem firstByte?_of_not_mem (h : c ∉ cs) : firstByte? c cs = none := by
  induction cs with
  | nil => rfl
  | cons d rest ih =>
      obtain ⟨hd, hrest⟩ := not_or.mp (mt List.mem_cons.mpr h)
      rw [firstByte?, if_neg (Ne.symm hd), ih hrest]
      rfl

theorem firstByte?_append {front : List Char} (h : c ∉ front) (rest : List Char) :
    firstByte? c (front ++ c :: rest) = some (byteLength front) := by
  induction front with
  | nil => exact if_pos rfl
  | cons d front ih =>
      obtain ⟨hd, hfront⟩ := not_or.mp (mt List.mem_cons.mpr h)
      rw [List.cons_append, firstByte?, if_neg (Ne.symm hd), ih hfront, byteLength]
      rfl

theorem lastByte?_of_not_mem (h : c ∉ cs) : lastByte? c cs = none := by
  induction cs with
  | nil => rfl
  | cons d rest ih =>
      obtain ⟨hd, hrest⟩ := not_or.mp (mt List.mem_cons.mpr h)
      simp only [lastByte?, ih hrest, if_neg (Ne.symm hd)]

theorem lastByte?_append {back : List Char} (h : c ∉ back) (front : List Char) :
    lastByte? c (front ++ c :: back) = some (byteLength front) := by
  induction front with
  | nil => simp [lastByte?, lastByte?_of_not_mem h]
  | cons d front ih => simp [lastByte?, ih]

theorem lastByte?_append_of_not_mem {back : List Char} (h : c ∉ back) (front : List Char) :
    lastByte? c (front ++ back) = lastByte? c front := by
  induction front with
  | nil => exact lastByte?_of_not_mem h
  | cons d front ih => simp only [List.cons_append, lastByte?, ih]

theorem lastByte?_lt {offset : Nat} (h : lastByte? c cs = some offset) :
    offset < byteLength cs := by
  induction cs generalizing offset with
  | nil => cases h
  | cons d rest ih =>
      have hsize := d.utf8Size_pos
      rw [byteLength]
      rw [lastByte?] at h
      split at h
      next later hlater =>
        cases h
        have := ih hlater
        omega
      next =>
        obtain ⟨-, hzero⟩ := Option.ite_none_right_eq_some.mp h
        cases hzero
        omega

/-- Two marks bound a part of a text: the bytes in front of the first occurrence of the one,
and the bytes up to the last occurrence of the other, which comes later and is one byte
long. -/
def bounds? (first last : Char) (cs : List Char) : Option (Nat × Nat) := do
  let start ← firstByte? first cs
  let stop ← lastByte? last cs
  if start < stop then some (start, stop + 1) else none

theorem Enclosed.exists_inside (h : Enclosed first last part) (hne : first ≠ last) :
    ∃ inside, part = first :: (inside ++ [last]) := by
  obtain ⟨rest, rfl⟩ := List.head?_eq_some_iff.mp h.starts
  obtain ⟨init, hinit⟩ := List.getLast?_eq_some_iff.mp h.ends
  cases init with
  | nil => exact absurd (List.cons.inj hinit).1 hne
  | cons d inside =>
      obtain ⟨rfl, rfl⟩ := List.cons.inj hinit
      exact ⟨inside, rfl⟩

/-- The bytes of a part between two marks, if these do not occur where they would be found
instead. -/
theorem Enclosed.bounds?_append (h : Enclosed first last part) (hne : first ≠ last)
    (hsize : last.utf8Size = 1) {front back : List Char} (hfront : first ∉ front)
    (hback : last ∉ back) :
    bounds? first last (front ++ part ++ back) =
      some (byteLength front, byteLength front + byteLength part) := by
  obtain ⟨inside, rfl⟩ := h.exists_inside hne
  have hstart : firstByte? first (front ++ first :: (inside ++ [last]) ++ back) =
      some (byteLength front) := by
    rw [List.append_assoc, List.cons_append]
    exact firstByte?_append hfront _
  have hstop : lastByte? last (front ++ first :: (inside ++ [last]) ++ back) =
      some (byteLength (front ++ first :: inside)) := by
    have heq : front ++ first :: (inside ++ [last]) ++ back =
        (front ++ first :: inside) ++ last :: back := by simp
    rw [heq]
    exact lastByte?_append hback _
  have hpos := first.utf8Size_pos
  simp only [bounds?, hstart, hstop, Option.bind_eq_bind, Option.bind_some, byteLength_append,
    byteLength, hsize]
  rw [if_pos (by omega)]
  simp only [Option.some.injEq, Prod.mk.injEq, true_and]
  omega

theorem bounds?_of_not_mem (h : first ∉ cs) : bounds? first last cs = none := by
  rw [bounds?, firstByte?_of_not_mem h]
  rfl

/-- Nothing is bounded when the closing mark comes only before the opening one. -/
theorem bounds?_append_of_not_mem {front rest : List Char} (hfront : first ∉ front)
    (hlast : last ∉ first :: rest) : bounds? first last (front ++ first :: rest) = none := by
  simp only [bounds?, firstByte?_append hfront, lastByte?_append_of_not_mem hlast,
    Option.bind_eq_bind, Option.bind_some]
  cases hstop : lastByte? last front with
  | none => rfl
  | some stop =>
      have := lastByte?_lt hstop
      simp only [Option.bind_some]
      exact if_neg (by omega)

/-- A text has a part between two marks at their outermost places, or the opening mark does
not occur in it, or the closing one does not occur behind it. -/
theorem exists_enclosed_or (hne : first ≠ last) (cs : List Char) :
    (∃ front part back, cs = front ++ part ++ back ∧ Enclosed first last part ∧
      first ∉ front ∧ last ∉ back) ∨
    first ∉ cs ∨
    ∃ front rest, cs = front ++ first :: rest ∧ first ∉ front ∧ last ∉ first :: rest := by
  by_cases hfirst : first ∈ cs
  · obtain ⟨front, rest, rfl, hfront⟩ := List.eq_append_cons_of_mem hfirst
    by_cases hlast : last ∈ rest
    · obtain ⟨back, inside, hreverse, hback⟩ :=
        List.eq_append_cons_of_mem (List.mem_reverse.mpr hlast)
      obtain rfl : rest = inside.reverse ++ last :: back.reverse := by
        rw [← List.reverse_reverse rest, hreverse]
        simp
      left
      refine ⟨front, first :: (inside.reverse ++ [last]), back.reverse, by simp, ⟨rfl, ?_⟩,
        hfront, mt List.mem_reverse.mp hback⟩
      rw [← List.cons_append, List.getLast?_concat]
    · exact .inr (.inr ⟨front, rest, rfl, hfront,
        List.not_mem_cons_of_ne_of_not_mem hne.symm hlast⟩)
  · exact .inr (.inl hfirst)

/-- A part of a text is what is between two of its positions, at given bytes. A position is
one between two characters. -/
def IsSlice (s part : String) (bytes : Nat × Nat) : Prop :=
  ∃ start stop : s.Pos, start.offset.byteIdx = bytes.1 ∧ stop.offset.byteIdx = bytes.2 ∧
    s.extract start stop = part

theorem isSlice_append (front part back : String) :
    IsSlice (front ++ part ++ back) part
      (front.utf8ByteSize, front.utf8ByteSize + part.utf8ByteSize) := by
  have hstart : front.rawEndPos.IsValid (front ++ part ++ back) :=
    String.Pos.Raw.isValid_iff_exists_append.mpr ⟨front, part ++ back, String.append_assoc, rfl⟩
  have hstop : (front ++ part).rawEndPos.IsValid (front ++ part ++ back) :=
    String.Pos.Raw.isValid_iff_exists_append.mpr ⟨front ++ part, back, rfl, rfl⟩
  refine ⟨⟨_, hstart⟩, ⟨_, hstop⟩, rfl, String.utf8ByteSize_append, ?_⟩
  apply String.toByteArray_inj.mp
  simp only [String.toByteArray_extract, String.toByteArray_append, String.byteIdx_rawEndPos,
    ← String.size_toByteArray, ByteArray.size_append]
  rw [ByteArray.append_assoc]
  calc (front.toByteArray ++ (part.toByteArray ++ back.toByteArray)).extract
        (front.toByteArray.size + 0) (front.toByteArray.size + part.toByteArray.size)
      = (part.toByteArray ++ back.toByteArray).extract 0 part.toByteArray.size :=
        ByteArray.extract_append_size_add' rfl
    _ = part.toByteArray := ByteArray.extract_append_eq_left rfl

theorem isSlice_of_toList_eq {s : String} {front part back : List Char}
    (h : s.toList = front ++ part ++ back) :
    IsSlice s (String.ofList part) (byteLength front, byteLength front + byteLength part) := by
  have hs : s = String.ofList front ++ String.ofList part ++ String.ofList back := by
    rw [← String.ofList_append, ← String.ofList_append, ← h, String.ofList_toList]
  have hslice := isSlice_append (String.ofList front) (String.ofList part) (String.ofList back)
  rwa [← hs, utf8ByteSize_ofList, utf8ByteSize_ofList] at hslice

theorem exists_isSlice_trim (s : String) : ∃ bytes, IsSlice s (trim s) bytes := by
  obtain ⟨front, back, h⟩ := isInfix_trimChars s.toList
  exact ⟨_, isSlice_of_toList_eq h.symm⟩

end SlideDeck.Text
