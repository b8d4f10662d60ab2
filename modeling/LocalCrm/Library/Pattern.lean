/-! Regular expressions that may look one symbol back and a pattern ahead. -/

set_option autoImplicit false

namespace LocalCrm.Library

inductive Pattern (Symbol : Type) where
  | one (allowed : Symbol → Bool)
  | sequence (first second : Pattern Symbol)
  /-- `{least,most}`, without an upper bound where there is none -/
  | repeated (pattern : Pattern Symbol) (least : Nat) (most : Option Nat)
  /-- `(?<![...])` -/
  | notAfter (forbidden : Symbol → Bool)
  /-- `(?!...)` -/
  | notBefore (pattern : Pattern Symbol)

structure Place (Symbol : Type) where
  before : Option Symbol
  rest : List Symbol

namespace Pattern

variable {Symbol : Type}

def unitEnds (allowed : Symbol → Bool) (place : Place Symbol) : List (Place Symbol) :=
  match place.rest with
  | [] => []
  | symbol :: rest => if allowed symbol then [{ before := some symbol, rest }] else []

/-- A repetition beyond the least number has to move on. -/
def repeatEnds (ends : Place Symbol → List (Place Symbol)) :
    (fuel least : Nat) → (most : Option Nat) → Place Symbol → List (Place Symbol)
  | 0, _, _, _ => []
  | fuel + 1, least, most, place =>
    let stops := if least = 0 then [place] else []
    if most = some 0 then stops
    else
      let onward := (ends place).filter fun next => 0 < least || next.rest.length < place.rest.length
      stops ++ onward.flatMap (repeatEnds ends fuel (least - 1) (most.map (· - 1)))

def ends : Pattern Symbol → Place Symbol → List (Place Symbol)
  | one allowed, place => unitEnds allowed place
  | sequence first second, place => (first.ends place).flatMap second.ends
  | repeated pattern least most, place => repeatEnds pattern.ends (place.rest.length + least + 1) least most place
  | notAfter forbidden, place => if place.before.any forbidden then [] else [place]
  | notBefore pattern, place => if (pattern.ends place).isEmpty then [place] else []

def testFrom (pattern : Pattern Symbol) : Option Symbol → List Symbol → Bool
  | before, [] => !(pattern.ends { before, rest := [] }).isEmpty
  | before, symbol :: rest => !(pattern.ends { before, rest := symbol :: rest }).isEmpty || pattern.testFrom (some symbol) rest

/-- `RegExp.test` of a pattern that is not anchored -/
def test (pattern : Pattern Symbol) (text : List Symbol) : Bool := pattern.testFrom none text

def optional (pattern : Pattern Symbol) : Pattern Symbol := repeated pattern 0 (some 1)

def inOrder (first : Pattern Symbol) : List (Pattern Symbol) → Pattern Symbol
  | [] => first
  | next :: rest => sequence first (inOrder next rest)

end Pattern

end LocalCrm.Library
