import Abacus.Token.Cursor

/-!
# Streams of tokens

What phrases are read from: the tokens of a source text that are still to be read, with the end of
the source behind them.

Result: `TokenStream.current_of_pending_nil`: when all tokens have been read, the end is current.
-/

namespace Abacus

/-- The tokens of a source text that are still to be read, and the one that stands for its end. -/
structure TokenStream where
  pending : List Token
  last : Token
  deriving DecidableEq, Repr

namespace TokenStream

/-- All tokens of a source text. -/
def ofSource (source : String) : TokenStream :=
  let (tokens, stop) := (Cursor.ofSource source).drain
  ⟨tokens, stop.endToken⟩

/-- The token to be read next. -/
def current (stream : TokenStream) : Token :=
  stream.pending.headD stream.last

/-- When all tokens have been read, the end is current. -/
theorem current_of_pending_nil {stream : TokenStream} (h : stream.pending = []) :
    stream.current = stream.last := by
  simp [current, h]

end TokenStream

/-- The tokens of a source text without its end. -/
def tokenize (source : String) : List Token :=
  (TokenStream.ofSource source).pending

end Abacus
