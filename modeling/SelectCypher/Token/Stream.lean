import SelectCypher.Token.Scanner

namespace SelectCypher

/-!
# The tokens of a text

A token stream lists the tokens before the first lexical error, together with
that error.  `Scanner.drain` runs a scanner to the end of its run; a text is
tokenized when its stream has no error.
-/

/-- The tokens read before the first lexical error, and that error. -/
structure TokenStream where
  tokens : List Token
  failure? : Option LexicalError
  deriving Repr, DecidableEq

namespace TokenStream

/-- A stream with one more token in front. -/
def cons
    (token : Token)
    (stream : TokenStream) :
    TokenStream where
  tokens := token :: stream.tokens
  failure? := stream.failure?

/-- The tokens of a stream without an error, or the error. -/
def complete (stream : TokenStream) : Except LexicalError (List Token) :=
  match stream.failure? with
  | none =>
      .ok stream.tokens
  | some failure =>
      .error failure

end TokenStream

namespace Scanner

/-- Everything a run still yields, and the scanner at the end of the run. -/
def drain (scanner : Scanner) : TokenStream × Scanner :=
  match _ : scanner.next? with
  | none =>
      ({ tokens := [], failure? := none }, scanner)
  | some (.error failure, behind) =>
      ({ tokens := [], failure? := some failure }, behind)
  | some (.ok token, behind) =>
      let (stream, last) := behind.drain
      (stream.cons token, last)
termination_by scanner.pending
decreasing_by exact next?_pending (by assumption)

/-- Everything a run still yields. -/
def stream (scanner : Scanner) : TokenStream :=
  scanner.drain.1

end Scanner

/-- The token stream of a text. -/
def TokenStream.ofText (text : String) : TokenStream :=
  (Scanner.ofText text).stream

/-- The tokens of a text, the last of them the end of input, or the first error. -/
def tokenize (text : String) : Except LexicalError (List Token) :=
  (TokenStream.ofText text).complete

end SelectCypher
