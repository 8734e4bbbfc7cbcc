import ClassAtlas.Java.Reader
import ClassAtlas.Proofs.NameCharacters

/-!
# Contracts of readers

The words among the tokens of a source are made of characters of identifiers, so they can be
quoted. A reader keeps a contract if whatever it reads from such tokens has a given property, and
the tokens it leaves are such tokens again. Contracts are composed as readers are: there is one
lemma for each way to make a reader of others, and each grammar rule has a contract by the lemmas
for what it is made of.
-/
namespace ClassAtlas.Java

open Text (Within isQuotable)

/-! ## Tokens -/

/-- Whether every word among tokens can be quoted. -/
def Lexed (tokens : List Token) : Prop :=
  ∀ token ∈ tokens, token.kind = .word → Within isQuotable token.text

/-- No symbol is a word. -/
theorem symbolPiece_ne_word (c : Char) (rest : List Char) :
    (symbolPiece c rest).1 ≠ .token .word := by
  unfold symbolPiece
  split
  · exact fun same => by simp at same
  · split
    · exact fun same => by simp at same
    · exact fun same => by simp at same

/-- No number is a word. -/
theorem numberPiece_ne_word (c : Char) (rest : List Char) :
    (numberPiece c rest).1 ≠ .token .word := by
  unfold numberPiece
  split
  · exact fun same => by simp at same
  · exact symbolPiece_ne_word c rest

/-- A closed piece of another kind is no word. -/
theorem closedPiece_ne_word {kind : TokenKind} (other : kind ≠ .word) (opening : Nat)
    (length : Option Nat) : (closedPiece kind opening length).1 ≠ .token .word := by
  unfold closedPiece
  split
  · exact fun same => other (PieceKind.token.inj same)
  · exact fun same => by simp at same

/-- A word starts with the start of an identifier and goes on as far as one does. -/
theorem scanPiece_word {c : Char} {rest : List Char} (found : (scanPiece c rest).1 = .token .word) :
    Text.isIdentifierStart c = true ∧
      (scanPiece c rest).2 = (rest.takeWhile Text.isIdentifierPart).length := by
  unfold scanPiece at found ⊢
  split
  · next blank => simp [blank] at found
  · next visible =>
    rw [if_neg visible] at found
    split
    · next start => exact ⟨start, rfl⟩
    · next other =>
      rw [if_neg other] at found
      exfalso
      split at found
      · exact numberPiece_ne_word c rest found
      · split at found
        · simp at found
        · split at found
          · simp at found
          · exact symbolPiece_ne_word _ _ found
        · exact numberPiece_ne_word _ _ found
        · exact closedPiece_ne_word (by decide) _ _ found
        · exact closedPiece_ne_word (by decide) _ _ found
        · exact closedPiece_ne_word (by decide) _ _ found
        · exact symbolPiece_ne_word _ _ found

/-- The words among the pieces of a text are made of characters that may be quoted. -/
theorem pieces_words (source : List Char) :
    ∀ piece ∈ pieces source, piece.kind = .token .word →
      ∀ c ∈ piece.chars, isQuotable c = true := by
  fun_induction pieces source with
  | case1 => exact List.forall_mem_nil _
  | case2 c rest kind length scanned ih =>
    refine List.forall_mem_cons.2 ⟨fun word => ?_, ih⟩
    have found : (scanPiece c rest).1 = .token .word := by rw [scanned]; exact word
    obtain ⟨start, extent⟩ := scanPiece_word found
    rw [scanned] at extent
    have taken : rest.take length = rest.takeWhile Text.isIdentifierPart := by
      have whole := List.prefix_iff_eq_take.1
        (List.takeWhile_prefix Text.isIdentifierPart : rest.takeWhile _ <+: rest)
      rw [whole, ← extent]
    refine List.forall_mem_cons.2 ⟨Text.isQuotable_of_isIdentifierStart start, fun c member => ?_⟩
    rw [taken] at member
    exact Text.isQuotable_of_isIdentifierPart (List.all_eq_true.1 List.all_takeWhile c member)

/-- The words among the tokens of pieces are those among the pieces. -/
theorem lexed_tokensOf {pieces : List Piece} (gap : List Char) (line : Nat)
    (words : ∀ piece ∈ pieces, piece.kind = .token .word →
      ∀ c ∈ piece.chars, isQuotable c = true) : Lexed (tokensOf gap line pieces) := by
  induction pieces generalizing gap line with
  | nil => exact List.forall_mem_nil _
  | cons piece pieces ih =>
    obtain ⟨here, later⟩ := List.forall_mem_cons.1 words
    obtain ⟨kind, chars⟩ := piece
    cases kind with
    | token kind =>
      refine List.forall_mem_cons.2 ⟨fun word => ?_, ih _ _ later⟩
      exact Text.within_ofList.2 (here (congrArg PieceKind.token word))
    | blank => exact ih _ _ later
    | comment => exact ih _ _ later

/-- The words of a source can be quoted. -/
theorem lexed_tokenize (source : String) : Lexed (tokenize source) :=
  lexed_tokensOf _ _ (pieces_words _)

namespace Reader

variable {α β : Type} {P : α → Prop} {Q : β → Prop}

/-- Whether what a reader reads from tokens whose words can be quoted has a property, and the
tokens it leaves are such tokens. -/
def Yields (reader : Reader α) (P : α → Prop) : Prop :=
  ∀ tokens, Lexed tokens → ∀ value rest, reader tokens = some (value, rest) →
    P value ∧ Lexed rest

namespace Yields

/-- A value read with a property has every property that follows from it. -/
theorem imp {reader : Reader α} {R : α → Prop} (kept : reader.Yields P)
    (follows : ∀ value, P value → R value) : reader.Yields R := by
  intro tokens lexed value rest run
  obtain ⟨held, left⟩ := kept tokens lexed value rest run
  exact ⟨follows value held, left⟩

/-- Reading nothing. -/
theorem pure {value : α} (held : P value) : Yields (Pure.pure value) P := by
  intro tokens lexed result rest run
  obtain ⟨rfl, rfl⟩ := Prod.mk.inj (Option.some.inj run)
  exact ⟨held, lexed⟩

/-- Reading never. -/
theorem failure : Yields (Alternative.failure : Reader α) P := by
  intro tokens lexed value rest run
  exact absurd run (Option.some_ne_none _).symm

/-- Reading one thing after the other. -/
theorem bind {reader : Reader α} {next : α → Reader β} (first : reader.Yields P)
    (second : ∀ value, P value → (next value).Yields Q) : (reader >>= next).Yields Q := by
  intro tokens lexed result rest run
  obtain ⟨⟨value, between⟩, read, continued⟩ := Option.bind_eq_some_iff.1 run
  obtain ⟨held, left⟩ := first tokens lexed value between read
  exact second value held between left result rest continued

/-- Making another value of what is read. -/
theorem map {reader : Reader α} {make : α → β} (kept : reader.Yields P)
    (made : ∀ value, P value → Q (make value)) : (make <$> reader).Yields Q := by
  intro tokens lexed result rest run
  obtain ⟨⟨value, left⟩, read, same⟩ := Option.bind_eq_some_iff.1 run
  obtain ⟨rfl, rfl⟩ := Prod.mk.inj (Option.some.inj same)
  obtain ⟨held, remaining⟩ := kept tokens lexed value left read
  exact ⟨made value held, remaining⟩

/-- Reading the first of two things that can be read. -/
theorem orElse {reader other : Reader α} (first : reader.Yields P)
    (second : other.Yields P) : (reader <|> other).Yields P := by
  intro tokens lexed value rest run
  change (reader tokens <|> other tokens) = some (value, rest) at run
  cases read : reader tokens with
  | none =>
    rw [read] at run
    exact second tokens lexed value rest run
  | some result =>
    rw [read] at run
    exact first tokens lexed value rest (read.trans run)

/-- Reading nothing that matters before another thing. -/
theorem skip {reader : Reader α} {next : α → Reader β} (first : reader.Yields fun _ => True)
    (second : ∀ value, (next value).Yields Q) : (reader >>= next).Yields Q :=
  first.bind fun value _ => second value

/-- Reading the next token. -/
theorem satisfy (accepts : Token → Bool) : (Reader.satisfy accepts).Yields fun token =>
    accepts token = true ∧ (token.kind = .word → Within isQuotable token.text) := by
  intro tokens lexed token rest run
  cases tokens with
  | nil => exact absurd run (Option.some_ne_none _).symm
  | cons next tokens =>
    obtain ⟨here, later⟩ := List.forall_mem_cons.1 lexed
    rw [Reader.satisfy] at run
    split at run
    · next accepted =>
      obtain ⟨rfl, rfl⟩ := Prod.mk.inj (Option.some.inj run)
      exact ⟨⟨accepted, here⟩, later⟩
    · exact absurd run (Option.some_ne_none _).symm

/-- Reading a symbol. -/
theorem symbol (text : String) : (Reader.symbol text).Yields fun _ => True :=
  (satisfy _).imp fun _ _ => trivial

/-- Reading a symbol that adjoins the token before it. -/
theorem adjoining (text : String) : (Reader.adjoining text).Yields fun _ => True :=
  (satisfy _).imp fun _ _ => trivial

/-- Reading a given word. -/
theorem word (text : String) : (Reader.word text).Yields fun _ => True :=
  (satisfy _).imp fun _ _ => trivial

/-- Reading a word as a name. -/
theorem identifier (reserved : List String) :
    (Reader.identifier reserved).Yields fun token => Within isQuotable token.text := by
  refine (satisfy _).imp fun token ⟨accepted, quotable⟩ => quotable ?_
  rw [Bool.and_eq_true] at accepted
  exact eq_of_beq accepted.1

/-- Looking at the next token. -/
theorem nextIs (accepts : Token → Bool) : (Reader.nextIs accepts).Yields fun _ => True := by
  intro tokens lexed value rest run
  obtain ⟨_, rfl⟩ := Prod.mk.inj (Option.some.inj run)
  exact ⟨trivial, lexed⟩

/-- Looking at the tokens ahead. -/
theorem aheadIs (accepts : List Token → Bool) :
    (Reader.aheadIs accepts).Yields fun _ => True := by
  intro tokens lexed value rest run
  obtain ⟨_, rfl⟩ := Prod.mk.inj (Option.some.inj run)
  exact ⟨trivial, lexed⟩

/-- Looking at the line of the next token. -/
theorem line : Reader.line.Yields fun _ => True := by
  intro tokens lexed value rest run
  obtain ⟨_, rfl⟩ := Prod.mk.inj (Option.some.inj run)
  exact ⟨trivial, lexed⟩

/-- Going on under a condition. -/
theorem ensure (condition : Bool) : (Reader.ensure condition).Yields fun _ => True := by
  unfold Reader.ensure
  split
  · exact pure trivial
  · exact failure

/-- Reading with the tokens that are taken. -/
theorem spanned {reader : Reader α} (kept : reader.Yields P) :
    (Reader.spanned reader).Yields fun result => P result.1 := by
  intro tokens lexed result rest run
  rw [Reader.spanned] at run
  split at run
  · next value left read =>
    obtain ⟨rfl, rfl⟩ := Prod.mk.inj (Option.some.inj run)
    exact kept tokens lexed value left read
  · exact absurd run (Option.some_ne_none _).symm

/-- Reading a thing that may be missing. -/
theorem maybe {reader : Reader α} (kept : reader.Yields P) :
    (Reader.maybe reader).Yields fun found => ∀ value ∈ found, P value := by
  refine orElse (kept.map fun value held other same => ?_) (pure fun value missing => ?_)
  · obtain rfl := Option.some.inj same
    exact held
  · exact absurd missing (Option.not_mem_none value)

/-- Reading at most so many things. -/
theorem upTo {item : Reader α} (kept : item.Yields P) (limit : Nat) :
    (Reader.upTo item limit).Yields fun values => ∀ value ∈ values, P value := by
  induction limit with
  | zero => exact pure (List.forall_mem_nil _)
  | succ limit ih =>
    refine orElse ?_ (pure (List.forall_mem_nil _))
    refine kept.bind fun first held => ?_
    refine ih.bind fun rest others => ?_
    exact pure (List.forall_mem_cons.2 ⟨held, others⟩)

/-- Reading as many things as there are. -/
theorem many {item : Reader α} (kept : item.Yields P) :
    (Reader.many item).Yields fun values => ∀ value ∈ values, P value :=
  fun tokens => upTo kept tokens.length tokens

/-- Reading one or more things. -/
theorem some1 {item : Reader α} (kept : item.Yields P) :
    (Reader.some1 item).Yields fun values => ∀ value ∈ values, P value := by
  refine kept.bind fun first held => ?_
  refine (many kept).bind fun rest others => ?_
  exact pure (List.forall_mem_cons.2 ⟨held, others⟩)

/-- Reading one or more things with separators between them. -/
theorem sepBy1 {item : Reader α} {separator : Reader β} (kept : item.Yields P)
    (between : separator.Yields fun _ => True) :
    (Reader.sepBy1 item separator).Yields fun values => ∀ value ∈ values, P value := by
  refine kept.bind fun first held => ?_
  refine (many (between.skip fun _ => kept)).bind fun rest others => ?_
  exact pure (List.forall_mem_cons.2 ⟨held, others⟩)

/-- Reading things with separators between them. -/
theorem sepBy {item : Reader α} {separator : Reader β} (kept : item.Yields P)
    (between : separator.Yields fun _ => True) :
    (Reader.sepBy item separator).Yields fun values => ∀ value ∈ values, P value :=
  orElse (sepBy1 kept between) (pure (List.forall_mem_nil _))

end Yields

end Reader

end ClassAtlas.Java
