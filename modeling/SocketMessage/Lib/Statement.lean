import Mathlib.Data.List.Forall2
import SocketMessage.Lib.Printf

/-!
# What a statement says

How the server reads the text of a statement: what stands outside of quotes, names in
backticks, strings in single quotes, where a backslash gives the next byte another meaning and
a doubled quote stands for itself. Statements with comments or double quotes are not read here.

A format whose texts are filled in between single quotes reads the same whatever they are, as
long as each of them is escaped.
-/

namespace SocketMessage.Lib

/-! ## Reading -/

inductive Quote where
  | backtick
  | single
deriving DecidableEq, Repr

def Quote.byte : Quote → Byte
  | .backtick => ascii (Char.ofNat 96)
  | .single => ascii (Char.ofNat 39)

/-- A part of a statement, with the value of what is quoted. -/
inductive Piece where
  | code (bytes : List Byte)
  | quoted (quote : Quote) (value : List Byte)
deriving DecidableEq, Repr

/-- Outside of quotes; inside; behind a backslash in a string; behind a quote that ends what it
quotes, unless a second one follows. -/
inductive LexPlace where
  | code
  | inside (quote : Quote)
  | escape
  | closing (quote : Quote)
deriving DecidableEq, Repr

/-- The parts read, and what has been read of the next one. -/
structure Lexer where
  pieces : List Piece
  place : LexPlace
  word : List Byte
deriving DecidableEq, Repr

/-- Bytes that may begin a comment, and double quotes. -/
def unread (byte : Byte) : Bool :=
  byte = ascii '#' || byte = ascii '-' || byte = ascii '/' || byte = 34

/-- What a backslash makes of the byte behind it. -/
def unescape (byte : Byte) : List Byte :=
  if byte = ascii '0' then [0]
  else if byte = ascii 'b' then [8]
  else if byte = ascii 'n' then [10]
  else if byte = ascii 'r' then [13]
  else if byte = ascii 't' then [9]
  else if byte = ascii 'Z' then [26]
  else if byte = ascii '%' ∨ byte = ascii '_' then [92, byte]
  else [byte]

namespace Lexer

def start : Lexer := ⟨[], .code, []⟩

/-- A byte outside of quotes. -/
def outside (pieces : List Piece) (word : List Byte) (byte : Byte) : Option Lexer :=
  if unread byte then none
  else if byte = Quote.byte .single then some ⟨pieces ++ [.code word], .inside .single, []⟩
  else if byte = Quote.byte .backtick then some ⟨pieces ++ [.code word], .inside .backtick, []⟩
  else some ⟨pieces, .code, word ++ [byte]⟩

/-- One byte. -/
def read : Lexer → Byte → Option Lexer
  | ⟨pieces, .code, word⟩, byte => outside pieces word byte
  | ⟨pieces, .inside quote, word⟩, byte =>
      if byte = quote.byte then some ⟨pieces, .closing quote, word⟩
      else if byte = 92 ∧ quote = .single then some ⟨pieces, .escape, word⟩
      else some ⟨pieces, .inside quote, word ++ [byte]⟩
  | ⟨pieces, .escape, word⟩, byte => some ⟨pieces, .inside .single, word ++ unescape byte⟩
  | ⟨pieces, .closing quote, word⟩, byte =>
      if byte = quote.byte then some ⟨pieces, .inside quote, word ++ [byte]⟩
      else outside (pieces ++ [.quoted quote word]) [] byte

def run (self : Lexer) (bytes : List Byte) : Option Lexer := bytes.foldlM read self

/-- The parts, once the statement ends; inside of quotes it does not. -/
def finish : Lexer → Option (List Piece)
  | ⟨pieces, .code, word⟩ => some (pieces ++ [.code word])
  | ⟨pieces, .closing quote, word⟩ => some (pieces ++ [.quoted quote word, .code []])
  | _ => none

end Lexer

/-- The parts of what has been read and of the rest. -/
def Lexer.parts (self : Lexer) (bytes : List Byte) : Option (List Piece) :=
  (self.run bytes).bind Lexer.finish

/-- The parts of a statement; between two that are quoted there is one that is not. -/
def lex (statement : List Byte) : Option (List Piece) := Lexer.start.parts statement

/-! ## Escaping -/

/-- A text and how it is escaped: each byte is written as it is, unless it is a NUL, a quote or a
backslash, or as a backslash and a byte that is read back as it. -/
inductive Escapes : List Byte → List Byte → Prop where
  | nil : Escapes [] []
  | plain {byte : Byte} {text written : List Byte} (notNul : byte ≠ 0)
      (notQuote : byte ≠ Quote.byte .single) (notBackslash : byte ≠ 92)
      (rest : Escapes text written) : Escapes (byte :: text) (byte :: written)
  | escaped {byte letter : Byte} {text written : List Byte} (notNul : letter ≠ 0)
      (means : unescape letter = [byte]) (rest : Escapes text written) :
      Escapes (byte :: text) (92 :: letter :: written)

/-- An escaped text has no NUL. -/
theorem Escapes.noNul {text written : List Byte} (escapes : Escapes text written) : 0 ∉ written := by
  induction escapes with
  | nil => exact List.not_mem_nil
  | plain notNul _ _ _ inductionHypothesis =>
      exact List.not_mem_cons_of_ne_of_not_mem (Ne.symm notNul) inductionHypothesis
  | escaped notNul _ _ inductionHypothesis =>
      exact List.not_mem_cons_of_ne_of_not_mem (by decide)
        (List.not_mem_cons_of_ne_of_not_mem (Ne.symm notNul) inductionHypothesis)

namespace Lexer

theorem run_append (self : Lexer) (first second : List Byte) :
    self.run (first ++ second) = (self.run first).bind fun next => next.run second :=
  List.foldlM_append

theorem run_cons (self : Lexer) (byte : Byte) (rest : List Byte) :
    self.run (byte :: rest) = (self.read byte).bind fun next => next.run rest := rfl

/-- In a string, an escaped text is read as itself and does not end the string. -/
theorem run_escapes {pieces : List Piece} {word text written : List Byte}
    (escapes : Escapes text written) :
    run ⟨pieces, .inside .single, word⟩ written =
      some ⟨pieces, .inside .single, word ++ text⟩ := by
  induction escapes generalizing word with
  | nil => simp [run]
  | @plain byte text written notNul notQuote notBackslash _ inductionHypothesis =>
      have step : read ⟨pieces, .inside .single, word⟩ byte =
          some ⟨pieces, .inside .single, word ++ [byte]⟩ := by
        simp only [read, if_neg notQuote, and_true, if_neg notBackslash]
      rw [run_cons, step, Option.bind_some, inductionHypothesis]
      simp
  | @escaped byte letter text written _ means _ inductionHypothesis =>
      have backslash : read ⟨pieces, .inside .single, word⟩ 92 =
          some ⟨pieces, .escape, word⟩ := by
        simp [read, Quote.byte, ascii]
      have step : read ⟨pieces, .escape, word⟩ letter =
          some ⟨pieces, .inside .single, word ++ [byte]⟩ := by
        simp only [read, means]
      rw [run_cons, backslash, Option.bind_some, run_cons, step, Option.bind_some,
        inductionHypothesis]
      simp

end Lexer

/-! ## Numbers -/

/-- Bytes that need no escape. -/
theorem escapes_self {text : List Byte}
    (plain : ∀ byte ∈ text, byte ≠ 0 ∧ byte ≠ Quote.byte .single ∧ byte ≠ 92) :
    Escapes text text := by
  induction text with
  | nil => exact .nil
  | cons byte rest inductionHypothesis =>
      obtain ⟨notNul, notQuote, notBackslash⟩ := plain byte List.mem_cons_self
      exact .plain notNul notQuote notBackslash
        (inductionHypothesis fun other member => plain other (List.mem_cons_of_mem _ member))

/-- A digit is none of the bytes that need one. -/
theorem ascii_digit {char : Char} (digit : char.isDigit) :
    ascii char ≠ 0 ∧ ascii char ≠ Quote.byte .single ∧ ascii char ≠ 92 := by
  simp only [Char.isDigit, Bool.and_eq_true, decide_eq_true_eq, ge_iff_le,
    UInt32.le_iff_toNat_le] at digit
  change 48 ≤ char.toNat ∧ char.toNat ≤ 57 at digit
  have value : (ascii char).toNat = char.toNat := by
    rw [ascii, BitVec.toNat_ofNat]
    omega
  have different : ∀ other : Byte, other.toNat < 48 ∨ 57 < other.toNat → ascii char ≠ other := by
    rintro other outside rfl
    omega
  exact ⟨different _ (by decide), different _ (by decide), different _ (by decide)⟩

/-- The digits and the sign of a number need no escape. -/
theorem escapes_decimal (value : CInt) : Escapes (decimal value) (decimal value) := by
  apply escapes_self
  intro byte member
  obtain ⟨char, written, rfl⟩ := List.mem_map.mp member
  have digits : ∀ number : Nat, char ∈ number.repr.toList → char.isDigit := by
    intro number inside
    rw [Nat.toList_repr] at inside
    exact Nat.isDigit_of_mem_toDigits (by decide) (by decide) inside
  rw [Int.toString_eq_repr, Int.repr_eq_if] at written
  split at written
  · exact ascii_digit (digits _ written)
  · rw [String.toList_append, List.mem_append] at written
    rcases written with sign | number
    · obtain rfl : char = '-' := by simpa using sign
      decide
    · exact ascii_digit (digits _ number)

/-! ## Formats -/

/-- What is known of some characters is known of the literal they are written as. -/
theorem literal_holds {known : List Char → Prop} {chars : List Char} (holds : known chars) :
    known (String.ofList chars).toList := by
  rwa [String.toList_ofList]

theorem literals_hold {known : List Char → List Char → Prop} {first second : List Char}
    (holds : known first second) :
    known (String.ofList first).toList (String.ofList second).toList := by
  rwa [String.toList_ofList, String.toList_ofList]

/-- What an argument stands for: a number for its digits, a text for what it was before it was
escaped. -/
inductive Fills : PrintfArg → List Byte → Prop where
  | number (value : CInt) : Fills (.d value) (decimal value)
  | text {value written : List Byte} (escapes : Escapes value written) : Fills (.s written) value

/-- Nothing that is printed ends the statement. -/
theorem noNul_sprintf {format : List Char} {args : List PrintfArg} {values : List (List Byte)}
    (fills : List.Forall₂ Fills args values) (own : ∀ char ∈ format, ascii char ≠ 0) :
    0 ∉ sprintf format args := by
  fun_induction sprintf format args generalizing values with
  | case1 format value args inductionHypothesis =>
    obtain ⟨_, _, -, others, -⟩ := List.forall₂_cons_left_iff.mp fills
    rw [List.mem_append, not_or]
    exact ⟨(escapes_decimal value).noNul, inductionHypothesis others
      fun char member => own char (List.mem_cons_of_mem _ (List.mem_cons_of_mem _ member))⟩
  | case2 format text args inductionHypothesis =>
    obtain ⟨_, _, filled, others, -⟩ := List.forall₂_cons_left_iff.mp fills
    cases filled with
    | text escapes =>
      rw [List.mem_append, not_or]
      exact ⟨escapes.noNul, inductionHypothesis others
        fun char member => own char (List.mem_cons_of_mem _ (List.mem_cons_of_mem _ member))⟩
  | case3 char format args _ _ inductionHypothesis =>
    rw [List.mem_cons, not_or]
    exact ⟨(own char List.mem_cons_self).symm,
      inductionHypothesis fills fun other member => own other (List.mem_cons_of_mem _ member)⟩
  | case4 args => exact List.not_mem_nil

/-- The parts of a format whose conversions, of these kinds, are each all of a string. They stand
for values and are left out. -/
def Lexer.template : Lexer → List Char → List Char → Option (List (Option Piece))
  | ⟨pieces, place, word⟩, '%' :: conversion :: '\'' :: format, kind :: kinds =>
      if place = .inside .single ∧ word = [] ∧ conversion = kind ∧
          format.head?.map ascii ≠ some (Quote.byte .single) then
        (Lexer.start.template format kinds).map fun rest => pieces.map some ++ none :: rest
      else none
  | _, '%' :: _, _ => none
  | self, char :: format, kinds =>
      (self.read (ascii char)).bind fun next => next.template format kinds
  | self, [], [] => self.finish.map fun pieces => pieces.map some
  | _, [], _ => none

/-- What is not the sign of a conversion is written as it is. -/
theorem sprintf_plain {char : Char} (plain : char ≠ '%') (format : List Char)
    (args : List PrintfArg) :
    sprintf (char :: format) args = ascii char :: sprintf format args :=
  sprintf.eq_3 _ _ _ (fun _ _ _ _ sign _ => plain sign) fun _ _ _ _ sign _ => plain sign

/-- A format that has an argument for each conversion can be printed before the rest. -/
theorem sprintf_append {front : List Char} {args : List PrintfArg}
    (matched : args.map PrintfArg.conversion = conversions front)
    (whole : front.getLast? ≠ some '%') (back : List Char) (more : List PrintfArg) :
    sprintf (front ++ back) (args ++ more) = sprintf front args ++ sprintf back more := by
  have later : ∀ {char : Char} {format : List Char}, (char :: format).getLast? ≠ some '%' →
      format.getLast? ≠ some '%' := by
    rintro char format whole last
    rw [List.getLast?_cons, last] at whole
    exact whole rfl
  fun_induction conversions front generalizing args with
  | case1 format inductionHypothesis =>
    obtain ⟨arg, args, rfl, number, others⟩ := List.map_eq_cons_iff.mp matched
    cases arg with
    | d value =>
      simp only [List.cons_append, sprintf, inductionHypothesis others (later (later whole)),
        List.append_assoc]
    | s text => cases number
  | case2 format inductionHypothesis =>
    obtain ⟨arg, args, rfl, text, others⟩ := List.map_eq_cons_iff.mp matched
    cases arg with
    | d value => cases text
    | s text =>
      simp only [List.cons_append, sprintf, inductionHypothesis others (later (later whole)),
        List.append_assoc]
  | case3 char format notNumber notText inductionHypothesis =>
    rw [List.cons_append, sprintf.eq_3 args, sprintf.eq_3 (args ++ more),
      inductionHypothesis matched (later whole), List.cons_append]
    -- It is not part of a conversion, and not with what follows the format either.
    · rintro tail value rest - rfl joined
      cases format with
      | nil => exact whole rfl
      | cons next format => exact notNumber format rfl (by rw [(List.cons.inj joined).1])
    · rintro tail text rest - rfl joined
      cases format with
      | nil => exact whole rfl
      | cons next format => exact notText format rfl (by rw [(List.cons.inj joined).1])
    · exact fun tail _ _ _ sign joined => notNumber tail sign joined
    · exact fun tail _ _ _ sign joined => notText tail sign joined
  | case4 =>
    obtain rfl := List.map_eq_nil_iff.mp matched
    rfl

/-- A conversion writes its value so that it can be read in a string. -/
theorem sprintf_string {arg : PrintfArg} {value : List Byte} (filled : Fills arg value)
    (format : List Char) (args : List PrintfArg) :
    ∃ written, Escapes value written ∧
      sprintf ('%' :: arg.conversion :: '\'' :: format) (arg :: args) =
        written ++ ascii '\'' :: sprintf format args := by
  have quote := sprintf_plain (show '\'' ≠ '%' by decide) format args
  cases filled with
  | number value =>
    exact ⟨_, escapes_decimal value, by rw [PrintfArg.conversion, sprintf, quote]⟩
  | @text _ written escapes =>
    exact ⟨written, escapes, by rw [PrintfArg.conversion, sprintf, quote]⟩

/-- The values where they are left out. -/
def fillIn : List (Option Piece) → List (List Byte) → List Piece
  | some piece :: template, values => piece :: fillIn template values
  | none :: template, value :: values => .quoted .single value :: fillIn template values
  | none :: _, [] => []
  | [], _ => []

theorem fillIn_append (pieces : List Piece) (template : List (Option Piece))
    (values : List (List Byte)) :
    fillIn (pieces.map some ++ template) values = pieces ++ fillIn template values := by
  induction pieces with
  | nil => rfl
  | cons piece rest inductionHypothesis =>
    rw [List.map_cons, List.cons_append, fillIn, inductionHypothesis, List.cons_append]

namespace Lexer

/-- What has been read before stays in front. -/
theorem read_after (before pieces : List Piece) (place : LexPlace) (word : List Byte)
    (byte : Byte) :
    read ⟨before ++ pieces, place, word⟩ byte = (read ⟨pieces, place, word⟩ byte).map
      fun next => ⟨before ++ next.pieces, next.place, next.word⟩ := by
  cases place with
  | code =>
    simp only [read, outside]
    split_ifs <;> simp
  | inside quote =>
    simp only [read]
    split_ifs <;> rfl
  | escape => rfl
  | closing quote =>
    simp only [read, outside]
    split_ifs <;> simp

theorem parts_cons (self : Lexer) (byte : Byte) (rest : List Byte) :
    self.parts (byte :: rest) = (self.read byte).bind fun next => next.parts rest := by
  rw [parts, run_cons, Option.bind_assoc]
  rfl

theorem parts_append {self next : Lexer} {bytes : List Byte} (ran : self.run bytes = some next)
    (rest : List Byte) : self.parts (bytes ++ rest) = next.parts rest := by
  rw [parts, run_append, ran, Option.bind_some, parts]

theorem parts_after (before pieces : List Piece) (place : LexPlace) (word bytes : List Byte) :
    parts ⟨before ++ pieces, place, word⟩ bytes =
      (parts ⟨pieces, place, word⟩ bytes).map (before ++ ·) := by
  induction bytes generalizing pieces place word with
  | nil =>
    change finish ⟨before ++ pieces, place, word⟩ = (finish ⟨pieces, place, word⟩).map _
    cases place <;> simp [finish]
  | cons byte rest inductionHypothesis =>
    rw [parts_cons, parts_cons, read_after, Option.bind_map]
    cases read ⟨pieces, place, word⟩ byte with
    | none => rfl
    | some next => exact inductionHypothesis next.pieces next.place next.word

/-- Behind a string the rest of the statement is read from its start. -/
theorem parts_closing (pieces : List Piece) (word : List Byte) {rest : List Byte}
    (single : rest.head? ≠ some (Quote.byte .single)) :
    parts ⟨pieces, .closing .single, word⟩ rest =
      (lex rest).map fun others => pieces ++ .quoted .single word :: others := by
  cases rest with
  | nil => rfl
  | cons byte rest =>
    have other : byte ≠ Quote.byte .single := by simpa using single
    have step : read ⟨pieces, .closing .single, word⟩ byte =
        read ⟨pieces ++ [.quoted .single word] ++ [], .code, []⟩ byte := by
      simp only [read, if_neg other, List.append_nil]
    rw [parts_cons, step, ← parts_cons, parts_after, lex, start]
    simp

/-- A string of a format with its value. -/
theorem parts_string {pieces : List Piece} {value written rest : List Byte}
    (escapes : Escapes value written) (single : rest.head? ≠ some (Quote.byte .single)) :
    parts ⟨pieces, .inside .single, []⟩ (written ++ ascii '\'' :: rest) =
      (lex rest).map fun others => pieces ++ .quoted .single value :: others := by
  rw [parts_append (run_escapes escapes), List.nil_append, parts_cons]
  exact parts_closing pieces value single

/-- Where a format can be read on, no conversion stands outside of a string. -/
theorem template_start_percent (format kinds : List Char) :
    start.template ('%' :: format) kinds = none := by
  unfold template
  split <;> grind [start]

/-- Once its conversions are printed, a format has its own parts and the values. -/
theorem parts_sprintf {self : Lexer} {format kinds : List Char} {template : List (Option Piece)}
    (parsed : self.template format kinds = some template) {args : List PrintfArg}
    {values : List (List Byte)} (fills : List.Forall₂ Fills args values)
    (kindsOf : args.map PrintfArg.conversion = kinds) :
    self.parts (sprintf format args) = some (fillIn template values) := by
  fun_induction Lexer.template self format kinds generalizing template args values with
  | case1 pieces place word conversion format kind kinds whole inductionHypothesis =>
    obtain ⟨rfl, rfl, rfl, single⟩ := whole
    obtain ⟨rest, others, rfl⟩ := Option.map_eq_some_iff.mp parsed
    obtain ⟨arg, args, rfl, rfl, restKinds⟩ := List.map_eq_cons_iff.mp kindsOf
    obtain ⟨value, values, filled, restFills, rfl⟩ := List.forall₂_cons_left_iff.mp fills
    obtain ⟨written, escapes, printed⟩ := sprintf_string filled format args
    have behind : (sprintf format args).head? ≠ some (Quote.byte .single) := by
      cases format with
      | nil => exact Option.some_ne_none _ ∘ Eq.symm
      | cons char format =>
        have plain : char ≠ '%' := by
          rintro rfl
          rw [template_start_percent] at others
          cases others
        rw [sprintf_plain plain]
        exact single
    rw [printed, parts_string escapes behind, lex, inductionHypothesis others restFills restKinds,
      fillIn_append]
    rfl
  | case2 => cases parsed
  | case3 => cases parsed
  | case4 self char format kinds _ plain inductionHypothesis =>
    obtain ⟨next, step, others⟩ := Option.bind_eq_some_iff.mp parsed
    rw [sprintf_plain plain, parts_cons, step, Option.bind_some,
      inductionHypothesis next others fills kindsOf]
  | case5 self =>
    obtain ⟨pieces, finished, rfl⟩ := Option.map_eq_some_iff.mp parsed
    obtain rfl := List.map_eq_nil_iff.mp kindsOf
    have filled := fillIn_append pieces [] values
    rw [List.append_nil] at filled
    rw [filled, fillIn, List.append_nil]
    exact finished
  | case6 => cases parsed

end Lexer

end SocketMessage.Lib
