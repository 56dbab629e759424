import Mathlib.Data.List.TakeWhile
import RoleGrants.Proofs.Yaml.Pen
import RoleGrants.Proofs.Yaml.Quoted
import RoleGrants.Yaml.Token.Scan

/-!
# Texts between single quotes

What the writer puts between single quotes is read as the same text, but for one character: NEL is
written as it is and read as a line feed, and so folded as one. `singleReading` is what a text reads
as, and `singleReading_eq_self_iff` says which texts come back.

The proof goes over the runs of a text, as both the writer and the reader treat a run of spaces or
of line breaks as one thing.
-/

namespace RoleGrants.Yaml

/-! ## Reading back -/

/-- What a text reads as that was written between single quotes, where `opens` says that no line
break stands in front of it. A lone NEL reads as a space, one that begins several line breaks as
nothing, and one in the middle of them as a line feed. -/
def singleReading (opens : Bool) : List Char → List Char
  | [] => []
  | c :: rest =>
    if c = '\x85' then
      (if !opens then ['\n'] else if (rest.head?.map isTextBreak).getD false then [] else [' '])
        ++ singleReading false rest
    else c :: singleReading (!isTextBreak c) rest

/-- A text without NEL reads as itself. -/
theorem singleReading_eq_self {s : List Char} (h : '\x85' ∉ s) (opens : Bool) :
    singleReading opens s = s := by
  induction s generalizing opens with
  | nil => rfl
  | cons c s ih =>
      rw [List.mem_cons, not_or] at h
      rw [singleReading, if_neg (Ne.symm h.1), ih h.2]

/-- No text reads as one with NEL. -/
theorem nel_not_mem_singleReading (opens : Bool) (s : List Char) :
    '\x85' ∉ singleReading opens s := by
  induction s generalizing opens with
  | nil => exact List.not_mem_nil
  | cons c s ih =>
      rw [singleReading]
      split
      · rw [List.mem_append, not_or]
        refine ⟨?_, ih false⟩
        split
        · decide
        · split <;> decide
      · next hc => exact fun h => (List.mem_cons.mp h).elim (fun e => hc e.symm) (ih _)

theorem singleReading_eq_self_iff {opens : Bool} {s : List Char} :
    singleReading opens s = s ↔ '\x85' ∉ s :=
  ⟨fun h => h ▸ nel_not_mem_singleReading opens s, fun h => singleReading_eq_self h opens⟩

/-- A run of line breaks reads as its first one folded with the others. -/
theorem singleReading_breaks {b : Char} {run t : List Char} (hb : isTextBreak b)
    (hrun : ∀ x ∈ run, isTextBreak x) (ht : ∀ x ∈ t.head?, isTextBreak x = false) :
    singleReading true (b :: run ++ t) =
      (if b = '\n' then '\n' :: run.map unifiedBreak
        else folded (unifiedBreak b) (run.map unifiedBreak)) ++ singleReading true t := by
  have hlater : ∀ run : List Char, (∀ x ∈ run, isTextBreak x) →
      singleReading false (run ++ t) = run.map unifiedBreak ++ singleReading true t := by
    intro run hrun
    induction run with
    | nil =>
        cases t with
        | nil => rfl
        | cons x t =>
            have hx : x ≠ '\x85' := by rintro rfl; exact absurd (ht _ rfl) (by decide)
            simp [singleReading, hx]
    | cons b run ih =>
        have hb := hrun b List.mem_cons_self
        have ih := ih fun x hx => hrun x (List.mem_cons_of_mem b hx)
        by_cases hn : b = '\x85' <;> simp [singleReading, unifiedBreak, hn, hb, ih]
  have hnext : ((run ++ t).head?.map isTextBreak).getD false = !run.isEmpty := by
    cases run with
    | nil =>
        cases t with
        | nil => rfl
        | cons x t => exact ht x rfl
    | cons x run => exact hrun x List.mem_cons_self
  rw [List.cons_append, singleReading, hnext, hb, Bool.not_true, hlater run hrun]
  by_cases hn : b = '\x85'
  · subst hn
    cases run <;> rfl
  · by_cases hl : b = '\n' <;> simp [hn, hl, folded, unifiedBreak]

/-- Spaces read as they are. -/
theorem singleReading_spaces (k : Nat) (t : List Char) :
    singleReading true (List.replicate k ' ' ++ t) =
      List.replicate k ' ' ++ singleReading true t := by
  induction k with
  | zero => rfl
  | succ k ih =>
      rw [List.replicate_succ, List.cons_append, singleReading, if_neg (by decide)]
      exact congrArg (' ' :: ·) ih

/-! ## Runs -/

/-- Induction over the runs of spaces and of line breaks in a text. -/
@[elab_as_elim]
theorem runs_induction {P : List Char → Prop} (nil : P [])
    (char : ∀ x t, x ≠ ' ' → isTextBreak x = false → P t → P (x :: t))
    (spaces : ∀ k t, t.head? ≠ some ' ' → P t → P (List.replicate (k + 1) ' ' ++ t))
    (breaks : ∀ b run t, isTextBreak b → (∀ x ∈ run, isTextBreak x) →
      (∀ x ∈ t.head?, isTextBreak x = false) → P t → P (b :: run ++ t))
    (s : List Char) : P s := by
  -- On the length: each run leaves a shorter text behind it.
  induction hn : s.length using Nat.strongRecOn generalizing s with
  | ind n ih =>
    subst hn
    cases s with
    | nil => exact nil
    | cons x t =>
        by_cases hx : x = ' '
        · subst hx
          have hall : ∀ y ∈ t.takeWhile (· = ' '), y = ' ' := fun y hy => by
            simpa using List.mem_takeWhile_imp hy
          have hsplit : ' ' :: t = List.replicate ((t.takeWhile (· = ' ')).length + 1) ' '
              ++ t.dropWhile (· = ' ') := by
            rw [List.replicate_succ, ← List.eq_replicate_of_mem hall, List.cons_append,
              List.takeWhile_append_dropWhile]
          rw [hsplit]
          refine spaces _ _ (fun h => ?_) (ih _ ?_ _ rfl)
          · have := List.head?_dropWhile_not (· = ' ') t
            simp [h] at this
          · exact Nat.lt_succ_of_le (List.length_dropWhile_le _ _)
        · by_cases hb : isTextBreak x
          · have hsplit : x :: t = x :: t.takeWhile isTextBreak ++ t.dropWhile isTextBreak := by
              rw [List.cons_append, List.takeWhile_append_dropWhile]
            rw [hsplit]
            refine breaks _ _ _ hb (fun y hy => List.mem_takeWhile_imp hy) (fun y hy => ?_)
              (ih _ ?_ _ rfl)
            · have := List.head?_dropWhile_not isTextBreak t
              rw [Option.mem_def.mp hy] at this
              exact this
            · exact Nat.lt_succ_of_le (List.length_dropWhile_le _ _)
          · exact char x t hx (by simpa using hb) (ih _ (Nat.lt_succ_self _) _ rfl)

/-! ## Texts that need no escapes -/

theorem isAllowed_of_not_needsEscape {x : Char} (h : needsEscape x = false) : isAllowed x := by
  simp only [needsEscape, Bool.not_eq_false', Bool.or_eq_true, Bool.and_eq_true,
    decide_eq_true_eq] at h
  simp only [isAllowed, Bool.or_eq_true, Bool.and_eq_true, decide_eq_true_eq]
  rcases h with (rfl | h) | ⟨h, -⟩
  · decide
  all_goals omega

theorem not_isGap {x : Char} (h : needsEscape x = false) (hs : x ≠ ' ')
    (hb : isTextBreak x = false) : isGap x = false := by
  have ht : x ≠ '\t' := by rintro rfl; exact absurd h (by decide)
  have hr : x ≠ '\r' := by rintro rfl; exact absurd h (by decide)
  have he : x ≠ endMark := by rintro rfl; exact absurd h (by decide)
  simp only [isTextBreak, Bool.or_eq_false_iff, decide_eq_false_iff_not] at hb
  simp [isGap, isSpaceOrEnd, isBreakOrEnd, isBreak, ht, hr, he, hs, hb]

theorem hasPair_append {p q : Char → Bool} {a b : Char} (ha : p a) (hb : q b) (u v : List Char) :
    hasPair p q (u ++ a :: b :: v) := by
  induction u with
  | nil => simp [hasPair, ha, hb]
  | cons x u ih => cases u <;> simp_all [hasPair]

theorem hasPair_of_suffix {p q : Char → Bool} {t : List Char} (h : hasPair p q t)
    (u : List Char) : hasPair p q (u ++ t) := by
  induction u with
  | nil => exact h
  | cons x u ih =>
      rw [List.cons_append]
      cases hu : u ++ t with
      | nil => rw [hu] at ih; exact absurd ih Bool.false_ne_true
      | cons y v => rw [hu] at ih; simp [hasPair, ih]

theorem allowsSingle_iff {s : List Char} : allowsSingle s ↔
    (∀ x ∈ s, needsEscape x = false) ∧ hasPair isTextBreak (· = ' ') s = false ∧
      hasPair (· = ' ') isTextBreak s = false := by
  simp [allowsSingle, and_assoc]

theorem allowsSingle_of_append {u t : List Char} (h : allowsSingle (u ++ t)) : allowsSingle t := by
  rw [allowsSingle_iff] at h ⊢
  obtain ⟨hprint, hbs, hsb⟩ := h
  refine ⟨fun x hx => hprint x (List.mem_append_right u hx), ?_, ?_⟩
  · exact Bool.eq_false_iff.mpr fun h => Bool.eq_false_iff.mp hbs (hasPair_of_suffix h u)
  · exact Bool.eq_false_iff.mpr fun h => Bool.eq_false_iff.mp hsb (hasPair_of_suffix h u)

/-- What stands behind spaces is no line break. -/
theorem allowsSingle_spaces {k : Nat} {t : List Char}
    (h : allowsSingle (List.replicate (k + 1) ' ' ++ t)) : allowsSingle t ∧
      (t.head? ≠ some ' ' → ∀ x ∈ t.head?, isGap x = false) := by
  have ht := allowsSingle_of_append h
  refine ⟨ht, fun hspace x hx => ?_⟩
  obtain ⟨v, rfl⟩ := List.head?_eq_some_iff.mp hx
  have hpair := (allowsSingle_iff.mp h).2.2
  rw [List.replicate_succ', List.append_assoc, List.singleton_append] at hpair
  refine not_isGap ((allowsSingle_iff.mp ht).1 x List.mem_cons_self) ?_ ?_
  · rintro rfl
    exact hspace rfl
  · exact Bool.eq_false_iff.mpr fun hb =>
      Bool.eq_false_iff.mp hpair (hasPair_append (by decide) hb _ _)

/-- What stands behind line breaks is no space. -/
theorem allowsSingle_breaks {b : Char} {run t : List Char} (hb : isTextBreak b)
    (hrun : ∀ x ∈ run, isTextBreak x) (h : allowsSingle (b :: run ++ t)) : allowsSingle t ∧
      ((∀ x ∈ t.head?, isTextBreak x = false) → ∀ x ∈ t.head?, isGap x = false) := by
  have ht := allowsSingle_of_append h
  refine ⟨ht, fun hbreak x hx => ?_⟩
  obtain ⟨v, rfl⟩ := List.head?_eq_some_iff.mp hx
  have hpair := (allowsSingle_iff.mp h).2.1
  refine not_isGap ((allowsSingle_iff.mp ht).1 x List.mem_cons_self) ?_ (hbreak x rfl)
  rintro rfl
  have hlast : isTextBreak ((b :: run).getLast (List.cons_ne_nil b run)) := by
    rcases List.mem_cons.mp (List.getLast_mem (List.cons_ne_nil b run)) with h | h
    · rw [h]; exact hb
    · exact hrun _ h
  rw [← List.dropLast_concat_getLast (List.cons_ne_nil b run), List.append_assoc,
    List.singleton_append] at hpair
  exact Bool.eq_false_iff.mp hpair (hasPair_append hlast (by decide) _ _)

/-! ## Characters that may be written -/

theorem allowed_append {v w : List Char} (hv : ∀ x ∈ v, isAllowed x) (hw : ∀ x ∈ w, isAllowed x) :
    ∀ x ∈ v ++ w, isAllowed x :=
  fun x hx => (List.mem_append.mp hx).elim (hv x) (hw x)

theorem allowed_spaces (k : Nat) : ∀ x ∈ List.replicate k ' ', isAllowed x := by
  intro x hx
  rw [List.eq_of_mem_replicate hx]
  decide

theorem allowed_line (k : Nat) : ∀ x ∈ '\n' :: List.replicate k ' ', isAllowed x :=
  List.forall_mem_cons.mpr ⟨by decide, allowed_spaces k⟩

theorem isAllowed_of_isTextBreak {b : Char} (h : isTextBreak b) : isAllowed b := by
  simp only [isTextBreak, Bool.or_eq_true, decide_eq_true_eq] at h
  rcases h with ((rfl | rfl) | rfl) | rfl <;> decide

/-! ## Writing -/

namespace Pen

variable {fold : Bool} {indent : Nat} {previous : Option Char} {t : List Char} {p : Pen}

/-- Spaces behind a space are written as they are. -/
theorem singleChars_moreSpaces (k : Nat) (p : Pen) :
    singleChars fold indent (some ' ') (List.replicate k ' ' ++ t) p =
      singleChars fold indent (some ' ') t (p.put (List.replicate k ' ')) := by
  induction k generalizing p with
  | zero => rfl
  | succ k ih =>
      rw [List.replicate_succ, List.cons_append, singleChars]
      simp only [ne_eq, not_true_eq_false, decide_false, Bool.false_and, Bool.false_eq_true,
        if_false, if_true]
      rw [ih, put_put, List.singleton_append]

/-- A run of spaces is written as it is, or it is one space in front of more text where the line is
folded. -/
theorem singleChars_spaces (k : Nat) : ∃ q,
    singleChars fold indent previous (List.replicate (k + 1) ' ' ++ t) p =
      singleChars fold indent (some ' ') t q ∧
    (q = p.put (List.replicate (k + 1) ' ') ∨
      k = 0 ∧ width < p.column ∧ q = p.toIndent indent) := by
  rw [List.replicate_succ, List.cons_append, singleChars]
  simp only [if_true]
  split
  · next hfold =>
    simp only [Bool.and_eq_true, decide_eq_true_eq] at hfold
    obtain ⟨⟨⟨⟨-, hnext⟩, -⟩, -⟩, hcolumn⟩ := hfold
    have hk : k = 0 := by
      cases k with
      | zero => rfl
      | succ k => simp [List.replicate_succ] at hnext
    exact ⟨_, by rw [hk]; rfl, Or.inr ⟨hk, hcolumn, rfl⟩⟩
  · exact ⟨_, by rw [singleChars_moreSpaces, put_put, List.singleton_append], Or.inl rfl⟩

/-- Behind a run of line breaks, the first of them written twice if it is a line feed, the pen is
indented. -/
theorem singleChars_breaks {b : Char} {run : List Char} (hb : isTextBreak b)
    (hrun : ∀ x ∈ run, isTextBreak x) (ht : ∀ x ∈ t.head?, isTextBreak x = false)
    (hprevious : (previous.map isTextBreak).getD false = false) : ∃ q last,
    singleChars fold indent previous (b :: run ++ t) p = singleChars fold indent (some last) t q ∧
    isTextBreak last ∧
    p.Adds ((if b = '\n' then ['\n'] else []) ++ b :: run ++ List.replicate indent ' ') q := by
  -- Behind the first break no other is doubled, so the induction is on the breaks after it.
  have hlater : ∀ (run : List Char) (b : Char) (p : Pen), isTextBreak b →
      (∀ x ∈ run, isTextBreak x) → ∃ q last,
      singleChars fold indent (some b) (run ++ t)
        (if ((run ++ t).head?.map isTextBreak).getD false then p.breakLine b
          else (p.breakLine b).toIndent indent) = singleChars fold indent (some last) t q ∧
      isTextBreak last ∧ p.Adds (b :: run ++ List.replicate indent ' ') q := by
    intro run
    induction run with
    | nil =>
        intro b p hb _
        have hnext : ((([] : List Char) ++ t).head?.map isTextBreak).getD false = false := by
          cases t with
          | nil => rfl
          | cons x t => exact ht x rfl
        refine ⟨_, b, by rw [hnext]; rfl, hb, ?_⟩
        simp [Adds, toIndent_breakLine]
    | cons d run ih =>
        intro b p hb hrun
        have hd := hrun d List.mem_cons_self
        obtain ⟨q, last, heq, hlast, hadds⟩ := ih d (p.breakLine b) hd
          fun x hx => hrun x (List.mem_cons_of_mem d hx)
        have hspace : d ≠ ' ' := by rintro rfl; exact absurd hd (by decide)
        refine ⟨q, last, ?_, hlast, (adds_breakLine b p).trans hadds⟩
        rw [← heq]
        simp [singleChars, hd, hb, hspace]
  obtain ⟨q, last, heq, hlast, hadds⟩ :=
    hlater run b (if b = '\n' then p.breakLine '\n' else p) hb hrun
  have hspace : b ≠ ' ' := by rintro rfl; exact absurd hb (by decide)
  refine ⟨q, last, ?_, hlast, ?_⟩
  · rw [← heq]
    simp [singleChars, hb, hspace, hprevious]
  · rw [List.append_assoc]
    refine Adds.trans ?_ hadds
    split
    · exact adds_breakLine '\n' p
    · exact Adds.refl p

/-- A text without escapes is written so that it reads as `singleReading` says. -/
theorem singleChars_reads (hpos : 0 < indent) (hwidth : indent ≤ width) {s : List Char}
    (hs : allowsSingle s)
    (hprevious : (∃ x ∈ s.head?, isTextBreak x) → (previous.map isTextBreak).getD false = false)
    (p : Pen) : ∃ w, p.Adds w (singleChars fold indent previous s p) ∧
      QuotedReads false w (singleReading true s) ∧ (∀ x ∈ w, isAllowed x) ∧
      ((∀ x ∈ s.head?, isGap x = false) → OpensWord w) := by
  induction s using runs_induction generalizing previous p with
  | nil => exact ⟨[], Adds.refl p, QuotedReads.nil false, by simp, fun _ => OpensWord.nil⟩
  | char x t hx hb ih =>
      have hprint := (allowsSingle_iff.mp hs).1 x List.mem_cons_self
      have hgap := not_isGap hprint hx hb
      have hnel : x ≠ '\x85' := by rintro rfl; exact absurd hb (by decide)
      have hread : singleReading true (x :: t) = x :: singleReading true t := by
        rw [singleReading, if_neg hnel, hb, Bool.not_false]
      have ih := @ih (some x) (allowsSingle_of_append (u := [x]) hs) fun _ => hb
      rw [hread, singleChars, if_neg hx, if_neg (by simp [hb])]
      by_cases hq : x = '\''
      · subst hq
        obtain ⟨w, hadds, hreads, hallowed, -⟩ := ih (p.put ['\'', '\''])
        refine ⟨'\'' :: '\'' :: w, ?_, hreads.quote, ?_, fun _ => opensWord_cons.mpr hgap⟩
        · exact (adds_put ['\'', '\''] p).trans hadds
        · simpa [show isAllowed '\'' from by decide] using hallowed
      · obtain ⟨w, hadds, hreads, hallowed, -⟩ := ih (p.put [x])
        refine ⟨x :: w, ?_, hreads.char ?_, ?_, fun _ => opensWord_cons.mpr hgap⟩
        · rw [if_neg hq]
          exact (adds_put [x] p).trans hadds
        · simp [meansItself, quoteMark, hgap, hq]
        · simpa [isAllowed_of_not_needsEscape hprint] using hallowed
  | spaces k t ht ih =>
      have hgap := (allowsSingle_spaces hs).2 ht
      obtain ⟨q, heq, hq⟩ := @singleChars_spaces fold indent previous t p k
      obtain ⟨w, hadds, hreads, hallowed, hopens⟩ :=
        @ih (some ' ') (allowsSingle_spaces hs).1 (fun _ => rfl) q
      rw [heq, singleReading_spaces]
      rcases hq with rfl | ⟨rfl, hcolumn, rfl⟩
      · exact ⟨List.replicate (k + 1) ' ' ++ w, (adds_put _ p).trans hadds,
          hreads.spaces (hopens hgap) k, allowed_append (allowed_spaces _) hallowed,
          fun h => absurd (h ' ' rfl) (by decide)⟩
      · rw [toIndent_eq_onLine (Or.inr (Nat.lt_of_le_of_lt hwidth hcolumn))] at hadds ⊢
        exact ⟨'\n' :: List.replicate indent ' ' ++ w, (adds_onLine indent p).trans hadds,
          hreads.foldedLine (hopens hgap) hpos, allowed_append (allowed_line indent) hallowed,
          fun h => absurd (h ' ' rfl) (by decide)⟩
  | breaks b run t hb hrun ht ih =>
      have hgap := (allowsSingle_breaks hb hrun hs).2 ht
      obtain ⟨q, last, heq, hlast, hadds⟩ := singleChars_breaks (p := p) hb hrun ht
        (hprevious ⟨b, rfl, hb⟩)
      have hnext : (∃ x ∈ t.head?, isTextBreak x) →
          ((some last).map isTextBreak).getD false = false := by
        rintro ⟨x, hx, hbreak⟩
        exact absurd hbreak (by simp [ht x hx])
      obtain ⟨w, hadds', hreads, hallowed, hopens⟩ :=
        @ih (some last) (allowsSingle_breaks hb hrun hs).1 hnext q
      rw [heq, singleReading_breaks hb hrun ht]
      refine ⟨_, hadds.trans hadds', ?_, allowed_append (allowed_append (fun x hx => ?_)
        (allowed_spaces indent)) hallowed, fun h => absurd (h b rfl) ?_⟩
      · by_cases hl : b = '\n'
        · subst hl
          exact hreads.breaks (hopens hgap) hb (List.forall_mem_cons.mpr ⟨hb, hrun⟩) hpos
        · rw [if_neg hl, if_neg hl, List.nil_append]
          exact hreads.breaks (hopens hgap) hb hrun hpos
      · have hbreak : isTextBreak x := by
          rcases List.mem_append.mp hx with hx | hx
          · split at hx
            · rw [List.mem_singleton.mp hx]; decide
            · cases hx
          · rcases List.mem_cons.mp hx with rfl | hx
            · exact hb
            · exact hrun x hx
        exact isAllowed_of_isTextBreak hbreak
      · simp [isGap_of_isTextBreak hb]

end Pen

end RoleGrants.Yaml
