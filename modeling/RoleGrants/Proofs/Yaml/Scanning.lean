import RoleGrants.Proofs.Yaml.Plain

/-!
# Steps of the scanner

A `Spot` is what of a scanner outside of brackets decides about the tokens to come, as long as no
token is remembered that may begin a key. `a.Reaches b` says that from any scanner at the one spot
the split goes on as from some scanner at the other. There is a rule for each thing that stands in a
written document: a line break, a block that ends, a key, a dash, a scalar, and a document marker.
-/

namespace RoleGrants.Yaml

/-- A line break, the indentation of the next line, and what stands there. -/
def nextLine (k : Nat) (t : List Char) : List Char := '\n' :: (List.replicate k ' ' ++ t)

theorem nextLine_append (k : Nat) (t u : List Char) : nextLine k t ++ u = nextLine k (t ++ u) := by
  simp [nextLine]

/-- Whether a token begins, or the text ends. -/
def OpensToken (t : List Char) : Prop := OpensWord t ∧ t.head? ≠ some '#'

theorem OpensToken.nil : OpensToken [] := ⟨.nil, nofun⟩

theorem opensToken_cons {x : Char} {t : List Char} :
    OpensToken (x :: t) ↔ isGap x = false ∧ x ≠ '#' := by
  rw [OpensToken, opensWord_cons]
  simp

theorem OpensPlain.opensToken {w : List Char} (h : OpensPlain w) (t : List Char) :
    OpensToken (w ++ t) := by
  obtain ⟨x, v, rfl, hx, hx', -⟩ := h
  exact opensToken_cons.mpr ⟨hx, hx'⟩

theorem opensToken_quoteMark (double : Bool) (t : List Char) :
    OpensToken (quoteMark double :: t) := by
  cases double <;> exact opensToken_cons.mpr (by decide)

/-- How a scalar is written in a block of some indentation, plain or not, and what it reads as. -/
inductive ScalarForm (n : Nat) : Bool → List Char → List Char → Prop
  | plain {w s : List Char} : PlainReads n w s → OpensPlain w →
      (∀ (c : Cursor) (t : List Char), c.rest = w ++ t → startsPlain false c) →
      ScalarForm n true w s
  | quoted {w s : List Char} (double : Bool) : QuotedReads double w s →
      ScalarForm n false (quoteMark double :: w ++ [quoteMark double]) s

theorem ScalarForm.opensToken {n : Nat} {plain : Bool} {w s : List Char}
    (h : ScalarForm n plain w s) (t : List Char) : OpensToken (w ++ t) := by
  cases h with
  | plain _ hopens => exact hopens.opensToken t
  | quoted double => exact opensToken_quoteMark double _

namespace Scanner

variable {s : Scanner} {t : List Char} {k : Nat}

/-! ## On to the next token -/

theorem toToken_succ (s : Scanner) (fuel : Nat) : s.toToken (fuel + 1) =
    match s.cursor.skipSpaces.skipComment.lineBreak? with
    | none => { s with cursor := s.cursor.skipSpaces.skipComment }
    | some (_, c) =>
      toToken fuel { s with cursor := c, keyAllowed := s.keyAllowed || !s.inFlow } := by
  with_unfolding_all rfl

theorem toToken_of_token (h : OpensToken s.cursor.rest) (fuel : Nat) : s.toToken fuel = s := by
  cases fuel with
  | zero => rfl
  | succ fuel =>
      rw [toToken_succ, Cursor.skipSpaces_eq_self h.1.head?_ne_space,
        Cursor.skipComment_eq_self h.2, Cursor.lineBreak?_of_opensWord h.1]

theorem toToken_of_spaces (hrest : s.cursor.rest = List.replicate k ' ' ++ t) (ht : OpensToken t)
    (fuel : Nat) : s.toToken (fuel + 1) =
      { s with cursor := ⟨t, s.cursor.index + k, s.cursor.line, s.cursor.column + k⟩ } := by
  have hword := Cursor.lineBreak?_of_opensWord
    (c := ⟨t, s.cursor.index + k, s.cursor.line, s.cursor.column + k⟩) ht.1
  rw [toToken_succ, Cursor.skipSpaces_of_spaces hrest ht.1.head?_ne_space,
    Cursor.skipComment_eq_self ht.2, hword]

/-- Behind a line break outside of brackets a key may begin. -/
theorem toToken_of_line (hrest : s.cursor.rest = '\n' :: (List.replicate k ' ' ++ t))
    (ht : OpensToken t) (hflow : s.flow = 0) (fuel : Nat) : s.toToken (fuel + 2) =
      { s with
        cursor := ⟨t, s.cursor.index + 1 + k, s.cursor.line + 1, k⟩
        keyAllowed := true } := by
  have hspaces : s.cursor.rest.head? ≠ some ' ' := by rw [hrest]; rintro ⟨⟩
  have hcomment : s.cursor.rest.head? ≠ some '#' := by rw [hrest]; rintro ⟨⟩
  have hkey : (s.keyAllowed || !s.inFlow) = true := by simp [inFlow, hflow]
  rw [toToken_succ, Cursor.skipSpaces_eq_self hspaces, Cursor.skipComment_eq_self hcomment,
    Cursor.lineBreak?_of_break hrest (by decide)]
  simp only [hkey]
  rw [toToken_of_spaces rfl ht]
  simp only [Nat.zero_add]

/-! ## Settling -/

theorem unwind_of_le {column : Int} (h : s.indent ≤ column) : s.unwind column = s := by
  have hlt : ¬ column < s.indent := Int.not_lt.mpr h
  rw [unwind]
  cases s.outer with
  | nil => simp [unwindTo]
  | cons o os => simp [unwindTo, hlt]

theorem dropStale_of_nil (h : s.possible = []) : s.dropStale = .ok s := by
  obtain ⟨cursor, emitted, flow, indent, outer, keyAllowed, possible⟩ := s
  obtain rfl : possible = [] := h
  rfl

/-- A key may begin at a token on the same line that is not too far back. -/
theorem dropStale_of_fresh {key : PossibleKey} (h : s.possible = [(0, key)])
    (hline : key.line = s.cursor.line) (hindex : s.cursor.index ≤ key.index + 1024) :
    s.dropStale = .ok s := by
  obtain ⟨cursor, emitted, flow, indent, outer, keyAllowed, possible⟩ := s
  obtain rfl : possible = [(0, key)] := h
  have hnear : ¬ 1024 < cursor.index - key.index := by
    have : cursor.index ≤ key.index + 1024 := hindex
    omega
  have hsame : key.line = cursor.line := hline
  simp [dropStale, isStale, hsame, hnear]

theorem settle_of_token (ht : OpensToken s.cursor.rest) (hfresh : s.dropStale = .ok s)
    (hindent : s.indent ≤ s.cursor.column) : s.settle = .ok s := by
  rw [settle, toToken_of_token ht, hfresh]
  exact congrArg Except.ok (unwind_of_le hindent)

/-! ## Runs -/

theorem run_succ (fuel : Nat) (s : Scanner) : s.run (fuel + 1) =
    match s.fetch with
    | .ok (true, s) => s.emitted.reverse
    | .ok (false, s) => run fuel s
    | .error fault => s.given ++ [.broken fault] := by
  with_unfolding_all rfl

/-- Without a fault the text is split into tokens, each of which takes a character at least. -/
inductive Finishes : Scanner → List Token → Prop
  | last {s s' : Scanner} : s.fetch = .ok (true, s') → Finishes s s'.emitted.reverse
  | more {s s' : Scanner} {tokens : List Token} : s.fetch = .ok (false, s') →
      s'.cursor.rest.length < s.cursor.rest.length → Finishes s' tokens → Finishes s tokens

/-- A run that is long enough for the text gives the tokens. -/
theorem Finishes.run_eq {tokens : List Token} (h : s.Finishes tokens) {n : Nat}
    (hn : s.cursor.rest.length < n) : s.run n = tokens := by
  induction h generalizing n with
  | last hfetch =>
      obtain ⟨n, rfl⟩ : ∃ m, n = m + 1 := ⟨n - 1, by omega⟩
      rw [run_succ, hfetch]
  | more hfetch hlen _ ih =>
      obtain ⟨n, rfl⟩ : ∃ m, n = m + 1 := ⟨n - 1, by omega⟩
      rw [run_succ, hfetch]
      exact ih (by omega)

/-- From one scanner the split goes on as from another. -/
def Leads (s s' : Scanner) : Prop := ∀ tokens, s'.Finishes tokens → s.Finishes tokens

theorem Leads.trans {s s' s'' : Scanner} (h : s.Leads s') (h' : s'.Leads s'') : s.Leads s'' :=
  fun tokens hfinish => h tokens (h' tokens hfinish)

/-- A token is fetched. -/
theorem Leads.of_fetch {s s' : Scanner} (h : s.fetch = .ok (false, s'))
    (hlen : s'.cursor.rest.length < s.cursor.rest.length) : s.Leads s' :=
  fun _ hfinish => .more h hlen hfinish

/-- Scanners that settle in the same way go on in the same way. -/
theorem Leads.of_settle {s s' : Scanner} (h : s.settle = s'.settle)
    (hlen : s'.cursor.rest.length ≤ s.cursor.rest.length) : s.Leads s' := by
  have hfetch : s.fetch = s'.fetch := by rw [fetch, fetch, h]
  rintro tokens (hlast | ⟨hmore, hshort, hfinish⟩)
  · exact .last (hfetch.trans hlast)
  · exact .more (hfetch.trans hmore) (Nat.lt_of_lt_of_le hshort hlen) hfinish

/-! ## What stands at the cursor -/

theorem fetch_of_settle (h : s.settle = .ok s) : s.fetch = s.dispatch := by
  rw [fetch, h]
  rfl

theorem savePossible_of_not_allowed (h : s.keyAllowed = false) : s.savePossible = .ok s := by
  rw [savePossible, h]
  rfl

/-- The characters that begin no plain scalar, even with a word behind them, and those that need
one. -/
theorem peek_of_startsPlain {c : Cursor} (h : startsPlain false c) :
    c.peek ∉ [endMark, '%', '[', ']', '\x7b', '\x7d', ',', '*', '&', '!', '|', '>', '\'', '"'] ∧
      (isGap (c.peekAt 1) → c.peek ∉ ['-', '?', ':']) := by
  refine ⟨fun hmem => ?_, fun hgap hmem => ?_⟩
  · rw [startsPlain] at h
    simp only [List.mem_cons, List.not_mem_nil, or_false] at hmem
    rcases hmem with e | e | e | e | e | e | e | e | e | e | e | e | e | e <;> rw [e] at h <;>
      simp [isGap, isSpaceOrEnd, isBreakOrEnd, endMark] at h
  · rw [startsPlain, hgap] at h
    simp only [List.mem_cons, List.not_mem_nil, or_false] at hmem
    rcases hmem with e | e | e <;> rw [e] at h <;> simp at h

theorem dispatch_plain (hflow : s.flow = 0) (h : startsPlain false s.cursor)
    (hline : s.cursor.column = 0 → s.cursor.atSeparator = false) :
    s.dispatch = s.fetchPlain.map (false, ·) := by
  obtain ⟨hne, hroom⟩ := peek_of_startsPlain h
  simp only [List.mem_cons, List.not_mem_nil, or_false, not_or] at hne hroom
  obtain ⟨hend, hpercent, h1, h2, h3, h4, h5, h6, h7, h8, h9, h10, h11, h12⟩ := hne
  have hsep : (s.cursor.column = 0 && s.cursor.atSeparator) = false := by
    by_cases h0 : s.cursor.column = 0
    · rw [hline h0, Bool.and_false]
    · simp [h0]
  have hat : s.atIndicator = isGap (s.cursor.peekAt 1) := by simp [atIndicator, inFlow, hflow]
  have hdash : (s.cursor.peek = '-' && isGap (s.cursor.peekAt 1)) = false := by
    by_cases hg : isGap (s.cursor.peekAt 1) <;> simp [hg, hroom]
  have hquestion : (s.cursor.peek = '?' && isGap (s.cursor.peekAt 1)) = false := by
    by_cases hg : isGap (s.cursor.peekAt 1) <;> simp [hg, hroom]
  have hcolon : (s.cursor.peek = ':' && isGap (s.cursor.peekAt 1)) = false := by
    by_cases hg : isGap (s.cursor.peekAt 1) <;> simp [hg, hroom]
  have hflow' : s.inFlow = false := by simp [inFlow, hflow]
  rw [dispatch]
  simp only [hend, hpercent, h1, h2, h3, h4, h5, h6, h7, h8, h9, h10, h11, h12, hsep, hat, hdash,
    hquestion, hcolon, hflow', h, decide_false, Bool.false_and, Bool.or_self, Bool.false_eq_true,
    if_false, if_true]

theorem dispatch_quoted (double : Bool) (h : s.cursor.peek = quoteMark double)
    (hline : s.cursor.atSeparator = false) :
    s.dispatch = (s.fetchKeyable scanQuoted).map (false, ·) := by
  rw [dispatch]
  cases double <;> simp [h, quoteMark, hline, endMark]

/-- A colon with room behind it. -/
theorem dispatch_value (h : s.cursor.peek = ':') (hgap : isGap (s.cursor.peekAt 1))
    (hline : s.cursor.atSeparator = false) : s.dispatch = s.fetchValue.map (false, ·) := by
  rw [dispatch]
  simp [h, hline, endMark, atIndicator, hgap]

/-- A dash with room behind it. -/
theorem dispatch_blockEntry (h : s.cursor.peek = '-') (hgap : isGap (s.cursor.peekAt 1))
    (hline : s.cursor.atSeparator = false) : s.dispatch = s.fetchBlockEntry.map (false, ·) := by
  rw [dispatch]
  simp [h, hline, endMark, hgap]

theorem dispatch_documentStart (h : s.cursor.peek = '-') (hcolumn : s.cursor.column = 0)
    (hline : s.cursor.atSeparator = true) :
    s.dispatch = (s.fetchMarker .documentStart).map (false, ·) := by
  rw [dispatch]
  simp [h, hline, hcolumn, endMark]

end Scanner

/-! ## Spots -/

/-- What of a scanner outside of brackets decides about the tokens to come, where no key may have
begun yet. -/
structure Spot where
  /-- The tokens so far, the last one first. -/
  emitted : List Token
  indent : Int
  outer : List Int
  keyAllowed : Bool
  column : Nat
  rest : List Char

namespace Spot

variable {a b c : Spot} {emitted : List Token} {indent : Int} {outer : List Int}
  {keyAllowed : Bool} {column k n : Nat} {t : List Char}

/-- The scanner that stands at a spot, some way into the text. -/
def scanner (a : Spot) (index line : Nat) : Scanner :=
  ⟨⟨a.rest, index, line, a.column⟩, a.emitted, 0, a.indent, a.outer, a.keyAllowed, []⟩

/-- From one spot the split goes on as from another, further into the text. -/
def Reaches (a b : Spot) : Prop :=
  ∀ index line, ∃ index' line', (a.scanner index line).Leads (b.scanner index' line')

theorem Reaches.trans (h : a.Reaches b) (h' : b.Reaches c) : a.Reaches c := by
  intro index line
  obtain ⟨index', line', hleads⟩ := h index line
  obtain ⟨index'', line'', hleads'⟩ := h' index' line'
  exact ⟨index'', line'', hleads.trans hleads'⟩

/-- A scanner that comes to a spot closes the blocks that end there. -/
theorem settle_of_toToken {s : Scanner} {index line : Nat}
    (h : s.toToken (s.cursor.rest.length + 1) = a.scanner index line) :
    s.settle = .ok ((a.scanner index line).unwind a.column) := by
  rw [Scanner.settle, h, Scanner.dropStale_of_nil rfl]
  rfl

theorem settle_scanner (ht : OpensToken a.rest) (index line : Nat) :
    (a.scanner index line).settle = .ok ((a.scanner index line).unwind a.column) :=
  settle_of_toToken (Scanner.toToken_of_token ht _)

/-- At a token inside of the innermost block nothing is left to settle. -/
theorem fetch_scanner (ht : OpensToken a.rest) (hindent : a.indent ≤ a.column)
    (index line : Nat) : (a.scanner index line).fetch = (a.scanner index line).dispatch := by
  apply Scanner.fetch_of_settle
  rw [settle_scanner ht]
  exact congrArg Except.ok (Scanner.unwind_of_le hindent)

/-! ## Between tokens -/

/-- Over a line break to the indentation of the next line. -/
theorem reaches_line (ht : OpensToken t) :
    Reaches ⟨emitted, indent, outer, keyAllowed, column, nextLine k t⟩
      ⟨emitted, indent, outer, true, k, t⟩ := by
  intro index line
  refine ⟨index + 1 + k, line + 1, Scanner.Leads.of_settle ?_ ?_⟩
  · exact (settle_of_toToken (Scanner.toToken_of_line rfl ht rfl _)).trans
      (settle_scanner ht _ _).symm
  · simp only [scanner, nextLine, List.length_cons, List.length_append]
    omega

/-- Over spaces inside a line. -/
theorem reaches_spaces (ht : OpensToken t) :
    Reaches ⟨emitted, indent, outer, keyAllowed, column, List.replicate k ' ' ++ t⟩
      ⟨emitted, indent, outer, keyAllowed, column + k, t⟩ := by
  intro index line
  refine ⟨index + k, line, Scanner.Leads.of_settle ?_ ?_⟩
  · exact (settle_of_toToken (Scanner.toToken_of_spaces rfl ht _)).trans
      (settle_scanner ht _ _).symm
  · simp only [scanner, List.length_append]
    exact Nat.le_add_left _ _

/-- A block ends where a line is indented less. -/
theorem reaches_blockEnd {o : Int} (ht : OpensToken t) (hk : (k : Int) < indent) :
    Reaches ⟨emitted, indent, o :: outer, keyAllowed, k, t⟩
      ⟨.blockEnd :: emitted, o, outer, keyAllowed, k, t⟩ := by
  intro index line
  refine ⟨index, line, Scanner.Leads.of_settle ?_ (Nat.le_refl _)⟩
  rw [settle_scanner ht, settle_scanner ht]
  refine congrArg Except.ok ?_
  simp [scanner, Scanner.unwind, Scanner.inFlow, Scanner.unwindTo, hk, Scanner.emit]

/-! ## Scalars -/

theorem scanQuoted_reads {double : Bool} {w s tail : List Char} (h : QuotedReads double w s)
    {c : Cursor} (hc : c.rest = quoteMark double :: (w ++ quoteMark double :: tail))
    (htail : tail.head? ≠ some '\'') :
    ∃ c' : Cursor, c'.rest = tail ∧ scanQuoted c = .ok (.scalar s false, c') := by
  have hrest : c.advance.rest = w ++ quoteMark double :: tail := by
    rw [Cursor.rest_advance, hc]
    rfl
  obtain ⟨c', hc', hread⟩ := @h c.advance tail (c.rest.length + 1) hrest htail (by
    rw [hc, List.length_cons, List.length_append]
    omega)
  have hdouble : decide (c.peek = '"') = double := by
    rw [Cursor.peek_of_rest hc]
    cases double <;> decide
  refine ⟨c', hc', ?_⟩
  rw [scanQuoted, hdouble, hread]
  rfl

section

variable {w s : List Char}

theorem reaches_plain (hreads : PlainReads n w s) (hword : OpensPlain w)
    (hstart : ∀ (c : Cursor) (t : List Char), c.rest = w ++ t → startsPlain false c)
    (hcolumn : n < column) (hk : k ≤ n) (ht : OpensToken t) :
    Reaches ⟨emitted, n, outer, false, column, w ++ nextLine k t⟩
      ⟨.scalar s true :: emitted, n, outer, true, k, t⟩ := by
  intro index line
  obtain ⟨⟨t, index', line', k⟩, rfl, rfl, hscan⟩ := scanPlain_reads hreads hword
    (c := ⟨w ++ nextLine k t, index, line, column⟩) rfl hcolumn hk ht.1
  refine ⟨index', line', Scanner.Leads.of_fetch ?_ ?_⟩
  · rw [fetch_scanner (hword.opensToken _) (Int.ofNat_le.mpr (Nat.le_of_lt hcolumn)),
      Scanner.dispatch_plain rfl (hstart _ _ rfl)
        fun h0 => absurd h0 (Nat.ne_of_gt (Nat.zero_lt_of_lt hcolumn)),
      Scanner.fetchPlain, Scanner.savePossible_of_not_allowed rfl]
    exact congrArg (fun r => Except.ok (false, (⟨r.2.2, r.1 :: emitted, 0, n, outer, r.2.1, []⟩ :
      Scanner))) hscan
  · simp only [scanner, nextLine, List.length_append, List.length_cons]
    omega

theorem reaches_quoted {double : Bool} (hreads : QuotedReads double w s) (hcolumn : n < column)
    (ht : OpensToken t) :
    Reaches ⟨emitted, n, outer, false, column,
        quoteMark double :: w ++ [quoteMark double] ++ nextLine k t⟩
      ⟨.scalar s false :: emitted, n, outer, true, k, t⟩ := by
  have hrest : quoteMark double :: w ++ [quoteMark double] ++ nextLine k t =
      quoteMark double :: (w ++ quoteMark double :: nextLine k t) := by
    simp
  rw [hrest]
  intro index line
  obtain ⟨⟨rest', index', line', column'⟩, rfl, hscan⟩ := scanQuoted_reads hreads
    (c := ⟨quoteMark double :: (w ++ quoteMark double :: nextLine k t),
      index, line, column⟩) rfl (by rintro ⟨⟩)
  obtain ⟨index'', line'', hleads⟩ := @reaches_line (.scalar s false :: emitted) n outer false
    column' k t ht index' line'
  refine ⟨index'', line'', Scanner.Leads.trans (Scanner.Leads.of_fetch ?_ ?_) hleads⟩
  · have hline : (⟨quoteMark double :: (w ++ quoteMark double :: nextLine k t), index, line,
        column⟩ : Cursor).atSeparator = false := by
      apply Cursor.atSeparator_eq_false <;> cases double <;> rintro ⟨⟩
    rw [fetch_scanner (opensToken_quoteMark double _) (Int.ofNat_le.mpr (Nat.le_of_lt hcolumn)),
      Scanner.dispatch_quoted double (Cursor.peek_of_rest rfl) hline, Scanner.fetchKeyable,
      Scanner.savePossible_of_not_allowed rfl]
    exact congrArg (fun x => Except.map (Prod.mk false) (x.bind fun r =>
      .ok (⟨r.2, r.1 :: emitted, 0, n, outer, false, []⟩ : Scanner))) hscan
  · simp only [scanner, nextLine, List.length_append, List.length_cons]
    omega

/-- A scalar behind the colon of its key, up to a line that is not indented further. -/
theorem reaches_scalar {plain : Bool} (h : ScalarForm n plain w s) (hcolumn : n < column)
    (hk : k ≤ n) (ht : OpensToken t) :
    Reaches ⟨emitted, n, outer, false, column, w ++ nextLine k t⟩
      ⟨.scalar s plain :: emitted, n, outer, true, k, t⟩ := by
  cases h with
  | plain hreads hword hstart => exact reaches_plain hreads hword hstart hcolumn hk ht
  | quoted double hreads => exact reaches_quoted hreads hcolumn ht

end

/-! ## Keys -/

section

variable {s : List Char}

/-- The scanner behind a key in front of its colon: the key is remembered, with the number of tokens
in front of it. -/
theorem fetch_key (hs : KeyText s) (hcolon : isGap (t.headD endMark)) (hindent : indent ≤ n)
    (index line : Nat) : ∃ required,
    (scanner ⟨emitted, indent, outer, true, n, s ++ ':' :: t⟩ index line).fetch = .ok (false,
      ⟨⟨':' :: t, index + s.length, line, n + s.length⟩, .scalar s true :: emitted, 0, indent,
        outer, false, [(0, ⟨emitted.length, required, index, line, n⟩)]⟩) := by
  have hline : (⟨s ++ ':' :: t, index, line, n⟩ : Cursor).atSeparator = false := by
    obtain ⟨x, v, rfl, -⟩ := hs.opensPlain
    exact Cursor.atSeparator_eq_false hs.hyphen hs.dot
  refine ⟨!false && indent == n, ?_⟩
  rw [fetch_scanner (hs.opensPlain.opensToken _) hindent,
    Scanner.dispatch_plain rfl (hs.startsPlain rfl) fun _ => hline]
  exact congrArg (fun r => Except.ok (false, (⟨r.2.2, r.1 :: emitted, 0, indent, outer, r.2.1,
    [(0, ⟨emitted.length, !false && indent == n, index, line, n⟩)]⟩ : Scanner)))
    (scanPlain_key hs hcolon (c := ⟨s ++ ':' :: t, index, line, n⟩) rfl indent)

/-- The tokens that open a key are put in front of it. -/
theorem fetchValue_of_key {token : Token} {key : PossibleKey} (hkey : key.tokens = emitted.length)
    (hcolumn : key.column = n) (hindent : indent ≤ n) (c : Cursor) :
    (⟨c, token :: emitted, 0, indent, outer, false, [(0, key)]⟩ : Scanner).fetchValue =
      .ok ⟨c.advanceBy 1, .value :: token :: .key ::
        (if indent < n then .blockMappingStart :: emitted else emitted), 0, n,
        if indent < n then indent :: outer else outer, false, []⟩ := by
  by_cases hopen : indent < n
  · simp [Scanner.fetchValue, Scanner.inFlow, Scanner.addIndent, Scanner.insertAt, Scanner.single,
      Scanner.emit, hopen, hkey, hcolumn]
  · obtain rfl : indent = n := by omega
    simp [Scanner.fetchValue, Scanner.inFlow, Scanner.addIndent, Scanner.insertAt, Scanner.single,
      Scanner.emit, hkey, hcolumn]

/-- A key with its colon; the first key of a mapping opens it. -/
theorem reaches_key (hs : KeyText s) (hcolon : isGap (t.headD endMark)) (hindent : indent ≤ n) :
    Reaches ⟨emitted, indent, outer, true, n, s ++ ':' :: t⟩
      ⟨.value :: .scalar s true :: .key ::
          (if indent < n then .blockMappingStart :: emitted else emitted),
        n, if indent < n then indent :: outer else outer, false, n + s.length + 1, t⟩ := by
  intro index line
  obtain ⟨required, hkey⟩ := @fetch_key emitted indent outer n t s hs hcolon hindent index line
  refine ⟨index + s.length + 1, line, (Scanner.Leads.of_fetch hkey ?_).trans
    (Scanner.Leads.of_fetch ?_ (Nat.lt_succ_self _))⟩
  · obtain ⟨x, v, rfl, -⟩ := hs.opensPlain
    simp only [scanner, List.length_append, List.length_cons]
    omega
  · have hopens : OpensToken (':' :: t) := opensToken_cons.mpr (by decide)
    have hline : (⟨':' :: t, index + s.length, line, n + s.length⟩ : Cursor).atSeparator =
        false := by
      apply Cursor.atSeparator_eq_false <;> rintro ⟨⟩
    have hlen := hs.length_lt
    rw [Scanner.fetch_of_settle (Scanner.settle_of_token hopens
      (Scanner.dropStale_of_fresh rfl rfl (by simp only; omega)) (by simp only; omega)),
      Scanner.dispatch_value rfl (by cases t <;> exact hcolon) hline,
      fetchValue_of_key rfl rfl hindent]
    rfl

end

/-! ## Dashes and markers -/

/-- A dash of a sequence at the indentation of its mapping. -/
theorem reaches_dash (ht : OpensToken t) :
    Reaches ⟨emitted, n, outer, true, n, '-' :: ' ' :: t⟩
      ⟨.blockEntry :: emitted, n, outer, true, n + 2, t⟩ := by
  have hdash : Reaches ⟨emitted, n, outer, true, n, '-' :: ' ' :: t⟩
      ⟨.blockEntry :: emitted, n, outer, true, n + 1, ' ' :: t⟩ := by
    intro index line
    refine ⟨index + 1, line, Scanner.Leads.of_fetch ?_ (Nat.lt_succ_self _)⟩
    have hline : (⟨'-' :: ' ' :: t, index, line, n⟩ : Cursor).atSeparator = false := by
      simp [Cursor.atSeparator]
    rw [fetch_scanner (opensToken_cons.mpr (by decide)) (Int.le_refl _),
      Scanner.dispatch_blockEntry rfl rfl hline]
    simp [scanner, Scanner.fetchBlockEntry, Scanner.openBlock, Scanner.inFlow, Scanner.addIndent]
    rfl
  exact hdash.trans (reaches_spaces (k := 1) ht)

/-- A document marker between two documents closes the mapping of the one in front of it. -/
theorem reaches_documentStart (ht : OpensToken t) :
    Reaches ⟨emitted, 0, [-1], true, 0, '-' :: '-' :: '-' :: nextLine 0 t⟩
      ⟨.documentStart :: .blockEnd :: emitted, -1, [], true, 0, t⟩ := by
  have hmarker : Reaches ⟨emitted, 0, [-1], true, 0, '-' :: '-' :: '-' :: nextLine 0 t⟩
      ⟨.documentStart :: .blockEnd :: emitted, -1, [], false, 3, nextLine 0 t⟩ := by
    intro index line
    refine ⟨index + 3, line, Scanner.Leads.of_fetch ?_ ?_⟩
    · rw [fetch_scanner (opensToken_cons.mpr (by decide)) (Int.le_refl _),
        Scanner.dispatch_documentStart rfl rfl rfl]
      rfl
    · simp only [scanner, List.length_cons]
      omega
  exact hmarker.trans (reaches_line (k := 0) ht)

/-- The end of the text closes the mapping of the last document. -/
theorem finishes_at_end (index line : Nat) :
    (scanner ⟨emitted, 0, [-1], keyAllowed, 0, []⟩ index line).Finishes
      (emitted.reverse ++ [.blockEnd, .streamEnd]) := by
  have hfetch : (scanner ⟨emitted, 0, [-1], keyAllowed, 0, []⟩ index line).fetch = .ok (true,
      ⟨⟨[], index, line, 0⟩, .streamEnd :: .blockEnd :: emitted, 0, -1, [], keyAllowed, []⟩) := by
    rw [fetch_scanner OpensToken.nil (Int.le_refl _)]
    rfl
  have hfinish := Scanner.Finishes.last hfetch
  simpa using hfinish

end Spot

end RoleGrants.Yaml
