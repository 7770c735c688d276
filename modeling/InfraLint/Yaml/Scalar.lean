import InfraLint.Grammar.Literal
import InfraLint.Yaml.Place

/-!
# Scalars within lines

A scalar is written plainly, in single quotes or in double quotes, and each may run over several
lines. The blanks around a line end are dropped; one line feed reads as a space, and of several the
first is dropped.
-/

namespace InfraLint.Yaml

/-- What has been passed since the last character of a scalar. -/
inductive Gap where
  | none
  /-- Blanks on one line, last one first. -/
  | spaces (blanks : List Char)
  /-- A line end, unless it was escaped, and the further ones, last one first. -/
  | lines (first : Option Char) (more : List Char)

namespace Gap

/-- The characters that a gap stands for, last one first. -/
def text : Gap → List Char
  | none => []
  | spaces blanks => blanks
  | lines first more =>
    if first == some '\n' then if more.isEmpty then [' '] else more
    else more ++ first.toList

/-- A gap with a blank after it. -/
def blank (c : Char) : Gap → Gap
  | none => spaces [c]
  | spaces blanks => spaces (c :: blanks)
  | lines first more => lines first more

/-- A gap with a line end after it. -/
def lineEnd (c : Char) : Gap → Gap
  | lines first more => lines first (breakText c :: more)
  | _ => lines (some (breakText c)) []

/-- Whether a line end has been passed. -/
def crossed : Gap → Bool
  | lines _ _ => true
  | _ => false

end Gap

/-- A scalar that has been read, and the place behind it. -/
structure ScalarText where
  text : String
  place : Place
  /-- Whether a line end has been passed behind the scalar. -/
  crossed : Bool := false

/-! ## Plain scalars -/

/-- Whether a plain scalar ends before `c` when `rest` follows it. -/
def endsPlain (flow : Bool) (c : Char) (rest : List Char) : Bool :=
  (c == ':' && atGap rest) || (flow && [',', '[', ']', '\x7b', '\x7d'].contains c)

/-- Whether a colon inside brackets stands where it cannot. -/
def isStrayColon (flow : Bool) (c : Char) (rest : List Char) : Bool :=
  flow && c == ':' &&
    match rest with
    | next :: _ => [',', '?', '[', ']', '\x7b', '\x7d'].contains next
    | [] => false

/-- Reads the rest of a plain scalar. `done` is what has been read, last character first. A line
whose first character stands left of column `least` does not belong to the scalar, except inside
brackets, and no tab may stand there. -/
def plainFrom (flow : Bool) (least : Nat) (done : List Char) (gap : Gap) (mark : Mark) :
    List Char → Option ScalarText
  | [] => some ⟨String.ofList done.reverse, ⟨[], mark⟩, gap.crossed⟩
  | '\r' :: '\n' :: rest => plainFrom flow least done (gap.lineEnd '\n') (mark.newLine 2) rest
  | c :: rest =>
    if isBreak c then plainFrom flow least done (gap.lineEnd c) (mark.newLine c.utf8Size) rest
    else if isSpace c then
      if c == '\t' && gap.crossed && mark.column < least then none
      else plainFrom flow least done (gap.blank c) (mark.next c) rest
    else
      let place : Place := ⟨c :: rest, mark⟩
      let isOver := match gap with
        | .none => false
        | .spaces _ => c == '#'
        | .lines _ _ => c == '#' || place.atDocumentMark || (!flow && mark.column < least)
      if isOver then some ⟨String.ofList done.reverse, place, gap.crossed⟩
      else if isStrayColon flow c rest then none
      else if endsPlain flow c rest then
        some ⟨String.ofList done.reverse, place, gap.crossed⟩
      else plainFrom flow least (c :: (gap.text ++ done)) .none (mark.next c) rest

/-- The characters that start something other than a plain scalar. -/
def indicators : List Char :=
  [',', '[', ']', '\x7b', '\x7d', '#', '&', '*', '!', '|', '>', '\x27', '"', '%', '@', '\x60']

/-- Whether a plain scalar can start with `c` when `rest` follows it. -/
def startsPlain (flow : Bool) (c : Char) (rest : List Char) : Bool :=
  if c == '-' then
    match rest with
    | next :: _ => !isSpace next
    | [] => true
  else if c == '?' || c == ':' then !flow && !atGap rest
  else !atGap [c] && !indicators.contains c

/-- Reads a plain scalar. -/
def plain? (flow : Bool) (least : Nat) (place : Place) : Option ScalarText :=
  plainFrom flow least [] .none place.mark place.rest

/-! ## Quoted scalars -/

/-- Reads the rest of a scalar in single quotes, in which a quote is written twice. -/
def singleFrom (done : List Char) (gap : Gap) (mark : Mark) : List Char → Option ScalarText
  | [] => none
  | '\r' :: '\n' :: rest => singleFrom done (gap.lineEnd '\n') (mark.newLine 2) rest
  | '\x27' :: '\x27' :: rest =>
    singleFrom ('\x27' :: (gap.text ++ done)) .none ((mark.next '\x27').next '\x27') rest
  | c :: rest =>
    if Place.atDocumentMark ⟨c :: rest, mark⟩ then none
    else if c == '\x27' then
      some { text := String.ofList (gap.text ++ done).reverse, place := ⟨rest, mark.next c⟩ }
    else if isBreak c then singleFrom done (gap.lineEnd c) (mark.newLine c.utf8Size) rest
    else if isSpace c then singleFrom done (gap.blank c) (mark.next c) rest
    else singleFrom (c :: (gap.text ++ done)) .none (mark.next c) rest

/-- What is being read inside double quotes. -/
inductive QuoteMode where
  | ordinary
  /-- Behind a backslash. -/
  | escape
  /-- Inside an escape by number, with as many digits to come. -/
  | code (digits value : Nat)

/-- The character that a letter behind a backslash stands for. -/
def escapes : List (Char × Char) :=
  [('0', '\x00'), ('a', '\x07'), ('b', '\x08'), ('t', '\t'), ('\t', '\t'), ('n', '\n'),
    ('v', '\x0b'), ('f', '\x0c'), ('r', '\r'), ('e', '\x1b'), (' ', ' '), ('"', '"'), ('/', '/'),
    ('\\', '\\'), ('N', '\u0085'), ('_', '\u00a0'), ('L', '\u2028'), ('P', '\u2029')]

/-- The number of digits of an escape by number. -/
def codeLength? (c : Char) : Option Nat :=
  [('x', 2), ('u', 4), ('U', 8)].lookup c

/-- The character with a given number. -/
def character? (n : Nat) : Option Char :=
  if n < 0xD800 || (0xDFFF < n && n ≤ 0x10FFFF) then some (Char.ofNat n) else none

/-- Reads the rest of a scalar in double quotes. -/
def doubleFrom (done : List Char) (gap : Gap) (mark : Mark) (mode : QuoteMode) :
    List Char → Option ScalarText
  | [] => none
  | c :: rest =>
    match mode with
    | .ordinary =>
      if Place.atDocumentMark ⟨c :: rest, mark⟩ then none
      else if c == '"' then
        some { text := String.ofList (gap.text ++ done).reverse, place := ⟨rest, mark.next c⟩ }
      else if c == '\\' then doubleFrom (gap.text ++ done) .none (mark.next c) .escape rest
      else if c == '\r' && rest.head? == some '\n' then
        doubleFrom done gap (mark.next c) .ordinary rest
      else if isBreak c then
        doubleFrom done (gap.lineEnd c) (mark.newLine c.utf8Size) .ordinary rest
      else if isSpace c then doubleFrom done (gap.blank c) (mark.next c) .ordinary rest
      else doubleFrom (c :: (gap.text ++ done)) .none (mark.next c) .ordinary rest
    | .escape =>
      if c == '\r' && rest.head? == some '\n' then doubleFrom done gap (mark.next c) .escape rest
      else if isBreak c then
        doubleFrom done (.lines none []) (mark.newLine c.utf8Size) .ordinary rest
      else
        match codeLength? c, escapes.lookup c with
        | some digits, _ => doubleFrom done gap (mark.next c) (.code digits 0) rest
        | none, some found => doubleFrom (found :: done) gap (mark.next c) .ordinary rest
        | none, none => none
    | .code digits value =>
      match Reader.hexValue? c with
      | none => none
      | some digit =>
        let value := 16 * value + digit
        if digits ≤ 1 then
          match character? value with
          | some found => doubleFrom (found :: done) gap (mark.next c) .ordinary rest
          | none => none
        else doubleFrom done gap (mark.next c) (.code (digits - 1) value) rest

/-- Reads a scalar in single quotes, from its opening quote on. -/
def single? (place : Place) : Option ScalarText :=
  singleFrom [] .none place.next.mark place.next.rest

/-- Reads a scalar in double quotes, from its opening quote on. -/
def double? (place : Place) : Option ScalarText :=
  doubleFrom [] .none place.next.mark .ordinary place.next.rest

end InfraLint.Yaml
