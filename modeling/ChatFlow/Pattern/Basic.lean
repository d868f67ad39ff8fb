import ChatFlow.Text.Case

/-!
# Patterns

The tree of a pattern with all options resolved: which characters a place accepts, where a text is
anchored, and how pieces are repeated, captured and looked at.
-/

namespace ChatFlow.Pattern

/-- How characters compare. -/
inductive CaseRule where
  /-- a character equals only itself -/
  | exact
  /-- ASCII letters compare without case -/
  | ascii
  /-- all letters compare without case -/
  | folded
  deriving DecidableEq, Repr

/-- Named classes of characters. -/
inductive CharClass where
  /-- decimal digits -/
  | digit
  /-- white space -/
  | space
  /-- letters, digits and the underscore -/
  | word
  deriving DecidableEq, Repr

/-- One member of a set. -/
inductive SetItem where
  /-- a character -/
  | code (n : Nat)
  /-- the characters between two, both included -/
  | range (low high : Nat)
  /-- a class or its complement, in ASCII or in full -/
  | cls (kind : CharClass) (asciiOnly negated : Bool)
  deriving DecidableEq, Repr

/-- **What one place of a pattern accepts.** -/
inductive CharTest where
  /-- every character, or all but the line feed -/
  | any (lineFeed : Bool)
  /-- a character, or all others -/
  | code (rule : CaseRule) (negated : Bool) (n : Nat)
  /-- the members of a set, or all others -/
  | set (rule : CaseRule) (negated : Bool) (items : List SetItem)
  deriving DecidableEq, Repr

/-- A place between characters. -/
inductive Anchor where
  /-- the start of the text -/
  | start
  /-- the start of a line -/
  | lineStart
  /-- the end of the text, or before a line feed that ends it -/
  | stop
  /-- the end of a line -/
  | lineStop
  /-- the very end of the text -/
  | textStop
  /-- where a word begins or ends, or anywhere else -/
  | boundary (asciiOnly negated : Bool)
  deriving DecidableEq, Repr

/-- How a repetition chooses its count. -/
inductive Greed where
  /-- as many as possible first -/
  | most
  /-- as few as possible first -/
  | least
  /-- as many as possible and no other count -/
  | only
  deriving DecidableEq, Repr

/-- **A pattern tree.** -/
inductive Node where
  /-- the empty text -/
  | empty
  /-- one character -/
  | one (test : CharTest)
  /-- a place between characters -/
  | anchor (place : Anchor)
  /-- one piece after the other -/
  | seq (first second : Node)
  /-- one piece or else the other -/
  | alt (first second : Node)
  /-- a captured piece -/
  | group (index : Nat) (body : Node)
  /-- the text captured by a group -/
  | backref (rule : CaseRule) (index : Nat)
  /-- a look ahead, or behind by a number of characters, that takes nothing -/
  | look (behind : Option Nat) (negated : Bool) (body : Node)
  /-- a piece that is not tried again once it has matched -/
  | atomic (body : Node)
  /-- a piece repeated between two counts -/
  | loop (greed : Greed) (least : Nat) (most : Option Nat) (body : Node)
  /-- one piece when a group has matched, the other when not -/
  | conditional (index : Nat) (whenSet whenUnset : Node)
  deriving DecidableEq, Repr, Inhabited

/-! ## Characters -/

/-- The lower case of an ASCII letter. -/
def asciiLower (n : Nat) : Nat := if 65 ≤ n && n ≤ 90 then n + 32 else n

/-- The character that stands for all that compare equal to it. -/
def CaseRule.fold : CaseRule → Nat → Nat
  | .exact, n => n
  | .ascii, n => asciiLower n
  | .folded, n => lowerCode n

/-- Whether two characters compare equal. -/
def CaseRule.same (rule : CaseRule) (a b : Nat) : Bool :=
  match rule with
  | .folded => (equalLowers (lowerCode a)).contains (lowerCode b)
  | _ => rule.fold a == rule.fold b

/-- The characters that compare equal to one. -/
def CaseRule.variants : CaseRule → Nat → List Nat
  | .exact, n => [n]
  | .ascii, n =>
    let l := asciiLower n
    if 97 ≤ l && l ≤ 122 then [l, l - 32] else [n]
  | .folded, n => caseVariants n

/-- Membership in a class. -/
def CharClass.contains (kind : CharClass) (asciiOnly : Bool) (n : Nat) : Bool :=
  let c := Char.ofNat n
  (!asciiOnly || n < 128) &&
    match kind with
    | .digit => isDecimal c
    | .space => if asciiOnly then (9 ≤ n && n ≤ 13) || n = 32 else isBlank c
    | .word => isWord c

/-- Membership in one item of a set. Beyond `U+FFFF` a single member stands for itself only and is
met by its lower case. -/
def SetItem.contains (rule : CaseRule) (n : Nat) : SetItem → Bool
  | .code a => if a < 0x10000 then rule.same a n else rule.fold n == a
  | .range low high => (rule.variants n).any fun v => low ≤ v && v ≤ high
  | .cls kind asciiOnly negated => kind.contains asciiOnly (rule.fold n) != negated

/-- **Whether a character is accepted.** -/
def CharTest.accepts (c : Char) : CharTest → Bool
  | .any lineFeed => lineFeed || c != '\n'
  | .code rule negated n => rule.same n c.toNat != negated
  | .set rule negated items => items.any (·.contains rule c.toNat) != negated

end ChatFlow.Pattern
