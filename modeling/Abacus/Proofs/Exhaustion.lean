import Abacus.Proofs.Lines

/-!
# A source is handed out once

A cursor can be asked for one token, which is the end again and again once no other is left, or for
a pass over all that is left, which leaves the end out. Requests of both kinds may follow each other
in any order. They are answered from one stream of tokens, each with the piece that comes next. A
token uses up some of the source, so there are no more tokens than characters, and a pass comes to
its end. Once only white space is left, the cursor stays where the end has taken it.

Results:
1. `Cursor.next_stream`: a call takes the current token off the stream.
2. `Cursor.exists_calls`: a pass is as many calls as it takes to come to the end.
3. `Cursor.serve_handsOut`: the answers to any requests are pieces of one stream, in order.
4. `Cursor.serve_exhausted`: what requests are answered with once nothing is left.
5. `requests_share_tokens`: all of this for any requests on a source.
-/

namespace Abacus

open Text

namespace Cursor

/-! ## Calls -/

/-- The tokens that a cursor stands in front of, and the end behind them. -/
def stream (cursor : Cursor) : TokenStream :=
  ⟨cursor.drain.1, cursor.drain.2.endToken⟩

theorem next?_eq_none_iff {cursor : Cursor} :
    cursor.next? = none ↔ ∀ c ∈ cursor.rest, isBlank c = true := by
  refine ⟨blank_of_next?, fun blank => ?_⟩
  rw [next?_eq, skipBlanks, dropWhile_isBlank_eq_nil_iff.mpr blank]

theorem pending_eq_nil_iff {cursor : Cursor} :
    cursor.stream.pending = [] ↔ cursor.next? = none := by
  cases found : cursor.next? with
  | none => simp [stream, drain_of_none found]
  | some step => simp [stream, drain_of_next? found]

/-- A call hands out the current token of the stream, and leaves the tokens behind it. -/
theorem next_stream (cursor : Cursor) :
    cursor.next.1 = cursor.stream.current ∧
      cursor.next.2.stream = ⟨cursor.stream.pending.tail, cursor.stream.last⟩ := by
  cases found : cursor.next? with
  | none =>
    have own : cursor.next.1 = cursor.endToken := by rw [next, found]; rfl
    have ends := next_of_none found
    have reached : cursor.next.2.next? = none := by rw [ends]; rfl
    rw [stream, stream, drain_of_none found, drain_of_none reached]
    refine ⟨own, ?_⟩
    rw [← own, ends]
    rfl
  | some step =>
    rw [next_of_some found, stream, stream, drain_of_next? found]
    exact ⟨rfl, rfl⟩

theorem kind_of_mem_pending {cursor : Cursor} {token : Token} (mem : token ∈ cursor.stream.pending) :
    token.kind ≠ .endOfFile :=
  (cursor.drain_spelled token mem).kind_ne_endOfFile

/-- A call hands out the end exactly where no token is left. -/
theorem next_kind_iff {cursor : Cursor} :
    cursor.next.1.kind = .endOfFile ↔ cursor.next? = none := by
  cases found : cursor.next? with
  | none => simp [next_of_none found]
  | some step => simpa [next_of_some found] using (next?_spelled found).kind_ne_endOfFile

theorem next_length {cursor : Cursor} (token : cursor.next.1.kind ≠ .endOfFile) :
    cursor.next.2.rest.length < cursor.rest.length := by
  cases found : cursor.next? with
  | none => exact absurd (next_kind_iff.mpr found) token
  | some step =>
    rw [next_of_some found]
    exact next?_length found

/-! ## Passes -/

/-- A pass over what is left: calls until one hands out the end, which is left out. -/
def collect (cursor : Cursor) : List Token × Cursor :=
  if _ : cursor.next.1.kind = .endOfFile then ([], cursor.next.2)
  else
    let (tokens, last) := cursor.next.2.collect
    (cursor.next.1 :: tokens, last)
termination_by cursor.rest.length
decreasing_by exact next_length ‹_›

theorem collect_of_end {cursor : Cursor} (ends : cursor.next.1.kind = .endOfFile) :
    cursor.collect = ([], cursor.next.2) := by
  rw [collect, dif_pos ends]

/-- Some calls after a first one. -/
theorem after_succ (cursor : Cursor) (calls : Nat) :
    cursor.after (calls + 1) = cursor.next.2.after calls := by
  induction calls with
  | zero => rfl
  | succ calls ih => rw [after, ih, after]

theorem handed_succ (cursor : Cursor) (calls : Nat) :
    cursor.handed (calls + 1) = cursor.next.2.handed calls := by
  rw [handed, after_succ, handed]

/-- A pass is as many calls as it takes to come to the end, and there are no more of them with a
token than characters are left. -/
theorem exists_calls (cursor : Cursor) :
    ∃ calls ≤ cursor.rest.length, (∀ earlier < calls, (cursor.handed earlier).kind ≠ .endOfFile) ∧
      (cursor.handed calls).kind = .endOfFile ∧
      cursor.collect = ((List.range calls).map cursor.handed, cursor.after (calls + 1)) := by
  fun_induction collect cursor with
  | case1 cursor ends => exact ⟨0, Nat.zero_le _, by simp, ends, rfl⟩
  | case2 cursor token tokens last eq ih =>
    obtain ⟨calls, bound, before, ends, all⟩ := ih
    have shorter := next_length token
    refine ⟨calls + 1, by omega, fun earlier lt => ?_, ?_, ?_⟩
    · cases earlier with
      | zero => exact token
      | succ earlier =>
        rw [handed_succ]
        exact before earlier (Nat.lt_of_succ_lt_succ lt)
    · rw [handed_succ]
      exact ends
    · have front : (List.range (calls + 1)).map cursor.handed =
          cursor.next.1 :: (List.range calls).map cursor.next.2.handed := by
        rw [List.range_succ_eq_map, List.map_cons, List.map_map]
        exact congrArg _ (List.map_congr_left fun earlier _ => cursor.handed_succ earlier)
      rw [eq, Prod.mk.injEq] at all
      rw [front, after_succ, all.1, all.2]

/-- A pass hands out all tokens of the stream, and leaves none. -/
theorem collect_stream (cursor : Cursor) :
    cursor.collect.1 = cursor.stream.pending ∧
      cursor.collect.2.stream = ⟨[], cursor.stream.last⟩ := by
  fun_induction collect cursor with
  | case1 cursor ends =>
    have nothing := pending_eq_nil_iff.mpr (next_kind_iff.mp ends)
    rw [cursor.next_stream.2, nothing]
    exact ⟨rfl, rfl⟩
  | case2 cursor token tokens last eq ih =>
    have more := mt pending_eq_nil_iff.mp (mt next_kind_iff.mpr token)
    obtain ⟨own, behind⟩ := cursor.next_stream
    obtain ⟨head, tail, split⟩ := List.exists_cons_of_ne_nil more
    simp only [eq, behind, split, List.tail_cons] at ih
    refine ⟨?_, ih.2⟩
    rw [own, ih.1, TokenStream.current, split]
    rfl

end Cursor

/-! ## Pieces of a stream -/

/-- `start.HandsOut tokens left`: the tokens are the next piece of a stream, and another stream is
what is left of it. The end may be handed out any number of times, but only behind all tokens. -/
structure TokenStream.HandsOut (start : TokenStream) (tokens : List Token) (left : TokenStream) :
    Prop where
  last : left.last = start.last
  pieces : ∃ ends,
    tokens ++ left.pending = start.pending ++ List.replicate ends start.last ∧
      (ends ≠ 0 → left.pending = [])

namespace TokenStream.HandsOut

variable {start middle left : TokenStream} {tokens more : List Token}

theorem refl (start : TokenStream) : start.HandsOut [] start :=
  ⟨rfl, 0, (List.append_nil _).symm, fun any => absurd rfl any⟩

/-- A piece and the next one are one piece. -/
theorem trans (first : start.HandsOut tokens middle) (second : middle.HandsOut more left) :
    start.HandsOut (tokens ++ more) left := by
  obtain ⟨same, ends, split, emptied⟩ := first
  obtain ⟨same', ends', split', emptied'⟩ := second
  refine ⟨same'.trans same, ends + ends', ?_, fun any => ?_⟩
  · calc tokens ++ more ++ left.pending
      _ = tokens ++ (middle.pending ++ List.replicate ends' middle.last) := by
        rw [List.append_assoc, split']
      _ = start.pending ++ (List.replicate ends start.last ++ List.replicate ends' start.last) := by
        rw [← List.append_assoc, split, same, List.append_assoc]
      _ = start.pending ++ List.replicate (ends + ends') start.last := by
        rw [List.replicate_append_replicate]
  · by_cases inFirst : ends' = 0
    · -- The end was handed out before, so there was nothing left for the second piece.
      have nothing : more ++ left.pending = [] := by
        rw [split', inFirst, emptied (by omega)]
        rfl
      exact (List.append_eq_nil_iff.mp nothing).2
    · exact emptied' inFirst

end TokenStream.HandsOut

/-! ## Requests -/

/-- What a cursor can be asked for. -/
inductive Cursor.Request where
  /-- One token. -/
  | single
  /-- All that is left. -/
  | rest
  deriving DecidableEq, Repr

namespace Cursor

/-- What a request is answered with, and the place that it takes the cursor to. -/
def Request.on : Request → Cursor → List Token × Cursor
  | .single, cursor => ([cursor.next.1], cursor.next.2)
  | .rest, cursor => cursor.collect

/-- What a request is answered with where nothing is left but the end. -/
def Request.atEnd (stop : Token) : Request → List Token
  | .single => [stop]
  | .rest => []

/-- The answers to some requests, one after the other, and the place they take the cursor to. -/
def serve (cursor : Cursor) : List Request → List (List Token) × Cursor
  | [] => ([], cursor)
  | request :: later =>
    let (answer, after) := request.on cursor
    let (answers, last) := after.serve later
    (answer :: answers, last)

/-- A request is answered with the next piece of the stream. -/
theorem Request.handsOut (request : Request) (cursor : Cursor) :
    cursor.stream.HandsOut (request.on cursor).1 (request.on cursor).2.stream := by
  cases request with
  | single =>
    obtain ⟨own, behind⟩ := cursor.next_stream
    rw [on]
    dsimp only
    rw [own, behind, TokenStream.current]
    refine ⟨rfl, ?_⟩
    cases cursor.stream.pending with
    | nil => exact ⟨1, rfl, fun _ => rfl⟩
    | cons token later => exact ⟨0, (List.append_nil _).symm, fun any => absurd rfl any⟩
  | rest =>
    obtain ⟨own, behind⟩ := cursor.collect_stream
    rw [on, own, behind]
    exact ⟨rfl, 0, rfl, fun _ => rfl⟩

/-- So are any requests, with their answers one behind the other. -/
theorem serve_handsOut (requests : List Request) (cursor : Cursor) :
    cursor.stream.HandsOut (cursor.serve requests).1.flatten
      (cursor.serve requests).2.stream := by
  induction requests generalizing cursor with
  | nil => exact .refl cursor.stream
  | cons request later ih => exact (request.handsOut cursor).trans (ih _)

/-- Where nothing is left, a request is answered as ever after, and takes the cursor to the end. -/
theorem Request.on_exhausted {cursor : Cursor} (nothing : cursor.next? = none)
    (request : Request) :
    request.on cursor = (request.atEnd cursor.stream.last, cursor.next.2) := by
  cases request with
  | single =>
    have current := TokenStream.current_of_pending_nil (pending_eq_nil_iff.mpr nothing)
    rw [on, cursor.next_stream.1, current, atEnd]
  | rest => rw [on, collect_of_end (next_kind_iff.mpr nothing), atEnd]

/-- At the end, a call takes a cursor nowhere. -/
theorem next_stays {cursor : Cursor} (nothing : cursor.next? = none) :
    cursor.next.2.next? = none ∧ cursor.next.2.next.2 = cursor.next.2 := by
  rw [next_of_none nothing]
  exact ⟨rfl, rfl⟩

/-- Where nothing is left, all requests are answered with the end or with nothing, and the first of
them takes the cursor to where it stays. -/
theorem serve_exhausted {cursor : Cursor} (nothing : cursor.next? = none)
    (requests : List Request) :
    (cursor.serve requests).1 = requests.map (Request.atEnd cursor.stream.last) ∧
      (requests ≠ [] → (cursor.serve requests).2 = cursor.next.2) := by
  induction requests generalizing cursor with
  | nil => exact ⟨rfl, fun any => absurd rfl any⟩
  | cons request later ih =>
    obtain ⟨stays, same⟩ := next_stays nothing
    obtain ⟨answers, place⟩ := ih stays
    rw [cursor.next_stream.2] at answers
    rw [serve, request.on_exhausted nothing]
    refine ⟨congrArg _ answers, fun _ => ?_⟩
    cases later with
    | nil => rfl
    | cons request later => exact (place (by simp)).trans same

/-- What a cursor owes to whoever asks it for tokens, told of the stream that it stands in front
of. -/
structure Supplies (cursor : Cursor) (left : TokenStream) : Prop where
  /-- Tokens are left as long as there is more than white space. -/
  exhausted : left.pending = [] ↔ ∀ c ∈ cursor.rest, isBlank c = true
  /-- So long, a call hands out the first of them, which is not the end, uses up some of the source,
  and leaves the others. -/
  single : ∀ token later, left.pending = token :: later →
    cursor.next.1 = token ∧ token.kind ≠ .endOfFile ∧
    (∃ taken, taken ≠ [] ∧ cursor.rest = taken ++ cursor.next.2.rest) ∧
    cursor.next.2.stream = ⟨later, left.last⟩
  /-- A pass hands out all of them, by as many calls as it takes to come to the end. -/
  pass : cursor.collect.1 = left.pending ∧ cursor.collect.2.stream = ⟨[], left.last⟩ ∧
    (∀ token ∈ cursor.collect.1, token.kind ≠ .endOfFile) ∧
    ∃ calls ≤ cursor.rest.length, (∀ earlier < calls, (cursor.handed earlier).kind ≠ .endOfFile) ∧
      (cursor.handed calls).kind = .endOfFile ∧
      cursor.collect = ((List.range calls).map cursor.handed, cursor.after (calls + 1))
  /-- When none is left, calls hand out the same end and passes nothing, and nothing moves on. -/
  ended : left.pending = [] → ∀ requests,
    (cursor.serve requests).1 = requests.map (Request.atEnd left.last) ∧
    (requests ≠ [] → (cursor.serve requests).2 = cursor.next.2)

theorem supplies (cursor : Cursor) : cursor.Supplies cursor.stream := by
  obtain ⟨own, behind⟩ := cursor.next_stream
  obtain ⟨all, emptied⟩ := cursor.collect_stream
  refine ⟨pending_eq_nil_iff.trans next?_eq_none_iff, fun token later split => ?_,
    ⟨all, emptied, fun token mem => ?_, cursor.exists_calls⟩,
    fun nothing => serve_exhausted (pending_eq_nil_iff.mp nothing)⟩
  · have current : cursor.next.1 = token := by rw [own, TokenStream.current, split]; rfl
    have notEnd : token.kind ≠ .endOfFile :=
      kind_of_mem_pending (by rw [split]; exact List.mem_cons_self)
    have shorter := next_length (by rwa [current])
    obtain ⟨gap, text, takes, -⟩ := cursor.exists_takes
    refine ⟨current, notEnd, ⟨gap ++ text, fun nothing => ?_, ?_⟩, ?_⟩
    · rw [takes.split, ← List.append_assoc, nothing] at shorter
      exact absurd shorter (Nat.lt_irrefl _)
    · rw [takes.split, ← List.append_assoc]
    · rw [behind, split]
      rfl
  · rw [all] at mem
    exact kind_of_mem_pending mem

/-- There are no more tokens left than characters. -/
theorem pending_length_le (cursor : Cursor) :
    cursor.stream.pending.length ≤ cursor.rest.length := by
  obtain ⟨calls, bound, -, -, all⟩ := cursor.exists_calls
  rw [← cursor.collect_stream.1, all, List.length_map, List.length_range]
  exact bound

end Cursor

/-- Whatever a cursor on a source has been asked for, its answers are consecutive pieces of the
tokens of that source, in order, with the end behind them as often as it was asked for when nothing
else was left. What the answers leave out is supplied to the next request. There are no more tokens
than characters. -/
theorem requests_share_tokens (source : String) (requests : List Cursor.Request) :
    let served := (Cursor.ofSource source).serve requests
    (∃ left ends, served.1.flatten ++ left =
        tokenize source ++ List.replicate ends (sourceEnd source) ∧
      (ends ≠ 0 → left = []) ∧ served.2.Supplies ⟨left, sourceEnd source⟩) ∧
    (tokenize source).length ≤ source.length := by
  intro served
  obtain ⟨last, ends, pieces, emptied⟩ := Cursor.serve_handsOut requests (.ofSource source)
  have supplies : served.2.Supplies ⟨served.2.stream.pending, served.2.stream.last⟩ :=
    served.2.supplies
  rw [last] at supplies
  refine ⟨⟨served.2.stream.pending, ends, pieces, emptied, supplies⟩, ?_⟩
  rw [← String.length_toList]
  exact (Cursor.ofSource source).pending_length_le

/-- A string that no quote ends is the last token, and line ends in it count for the end. -/
example : ((Cursor.ofSource "1 +\n\"a\n").serve [.single, .rest, .rest, .single, .single]).1 =
    [[⟨.integerLiteral, "1", 1⟩], [⟨.plus, "+", 1⟩, ⟨.stringLiteral, "a\n", 2⟩], [],
      [⟨.endOfFile, "EOF", 3⟩], [⟨.endOfFile, "EOF", 3⟩]] := by
  decide +kernel

end Abacus
