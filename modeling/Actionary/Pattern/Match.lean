import Actionary.Pattern.Expr

/-!
# Matching

How a pattern fits a text. A cursor splits the text into what is before it, nearest first, and what
is after it. `Expr.run` moves the cursor over a pattern and hands every cursor it reaches to what
comes next, in the order of preference, until what comes next succeeds. A search tries the places of
a text from left to right.

A possessive repetition of a whole pattern goes on from the place at which its last round got stuck.
So a trail of the places that are tried is kept inside such a round; elsewhere nothing is kept.
-/

namespace Actionary.Pattern

open Actionary.Text

/-- A place in a text: what is before it, nearest first, and what is after it. Of each group on the
way, what was after its start and after its end is kept, latest first. -/
structure Cursor where
  before : List Code
  after : List Code
  opened : List (Nat × List Code)
  closed : List (Nat × List Code)
deriving DecidableEq, Repr

namespace Cursor

/-- A place between two parts of a text, without groups. -/
def between (before after : List Code) : Cursor :=
  ⟨before, after, [], []⟩

def moved (s : Cursor) (before after : List Code) : Cursor :=
  { s with before, after }

def back : Nat → Cursor → Option Cursor
  | 0, s => some s
  | n + 1, s =>
    match s.before with
    | [] => none
    | c :: cs => back n (s.moved cs (c :: s.after))

def textTo (s t : Cursor) : List Code :=
  s.after.take (s.after.length - t.after.length)

/-- The text that a group captured last: from its start to its end, if the end is not before the
start. -/
def group? (s : Cursor) (group : Nat) : Option (List Code) :=
  match s.opened.lookup group, s.closed.lookup group with
  | some start, some stop =>
    if stop.length ≤ start.length then some (start.take (start.length - stop.length)) else none
  | _, _ => none

def afterWord (s : Cursor) (ascii : Bool) : Bool :=
  match s.before with
  | [] => false
  | c :: _ => CharClass.word.holds ascii c

def beforeWord (s : Cursor) (ascii : Bool) : Bool :=
  match s.after with
  | [] => false
  | c :: _ => CharClass.word.holds ascii c

def meets (s : Cursor) (t : Test) : Bool :=
  match s.after with
  | [] => false
  | c :: _ => t.holds c

end Cursor

def Anchor.holds (s : Cursor) : Anchor → Bool
  | .textStart => s.before.isEmpty
  | .textEnd => s.after.isEmpty
  | .lastLineEnd => s.after.isEmpty || s.after == [.char '\n']
  | .lineStart =>
    match s.before with
    | [] => true
    | c :: _ => c == '\n'
  | .lineEnd =>
    match s.after with
    | [] => true
    | c :: _ => c == '\n'
  | .boundary ascii => s.afterWord ascii != s.beforeWord ascii
  | .inside ascii =>
    !(s.before.isEmpty && s.after.isEmpty) && s.afterWord ascii == s.beforeWord ascii

/-- Moves over a text that stands after the place. Characters are compared by their small forms
under a rule. -/
def Cursor.over (rule : CaseRule) : List Code → Cursor → Option Cursor
  | [], s => some s
  | c :: cs, s =>
    match s.after with
    | [] => none
    | d :: ds =>
      if rule.small c == rule.small d then Cursor.over rule cs (s.moved (d :: s.before) ds)
      else none

/-- What is kept of the places that are tried. -/
structure Trail (τ : Type) where
  note : Cursor → τ → τ

namespace Trail

/-- Nothing is kept. -/
def nothing : Trail Unit :=
  ⟨fun _ t => t⟩

/-- The last place is kept. -/
def last : Trail Cursor :=
  ⟨fun s _ => s⟩

def noteIf (trail : Trail τ) (condition : Bool) (s : Cursor) (t : τ) : τ :=
  if condition then trail.note s t else t

end Trail

/-- How an attempt ends: everything fits up to a place, or nothing fits and the trail is left. -/
inductive Outcome (τ : Type) where
  | fits (s : Cursor)
  | stuck (left : τ)
deriving Repr

/-- What comes next: the outcome of everything else from a place on. -/
abbrev Next (τ : Type) := Cursor → τ → Outcome τ

def done : Next τ :=
  fun s _ => .fits s

/-- Hands on the place after as many characters as meet a condition, then after one less, and so on.
The farthest place is made known to the trail by `reach`. -/
def longestFirst (t : Test) (next : Next τ) (reach : Cursor → τ → τ) (s : Cursor) :
    Nat → Option Nat → List Code → List Code → τ → Outcome τ
  | least, _, before, [], left =>
    let here := s.moved before []
    if least == 0 then next here (reach here left) else .stuck (reach here left)
  | least, most, before, c :: cs, left =>
    let here := s.moved before (c :: cs)
    if most != some 0 && t.holds c then
      match longestFirst t next reach s (least - 1) (most.map (· - 1)) (c :: before) cs left with
      | .fits r => .fits r
      | .stuck left => if least == 0 then next here left else .stuck left
    else if least == 0 then next here (reach here left)
    else .stuck (reach here left)

/-- Hands on the place after as few characters as are needed, then after one more that meets a
condition, and so on. Every place where characters were counted is made known to the trail by
`reach`. -/
def shortestFirst (t : Test) (next : Next τ) (note reach : Cursor → τ → τ) (s : Cursor) :
    Nat → Option Nat → List Code → List Code → τ → Outcome τ
  | least, most, before, after, left =>
    let here := s.moved before after
    if least == 0 then
      match next here (note here left) with
      | .fits r => .fits r
      | .stuck left =>
        match after with
        | [] => .stuck (note here left)
        | c :: cs =>
          if t.holds c then
            let left := reach (s.moved (c :: before) cs) (note here left)
            if most == some 0 then .stuck left
            else shortestFirst t next note reach s 0 (most.map (· - 1)) (c :: before) cs left
          else .stuck (note here left)
    else
      match after with
      | [] => .stuck (reach here left)
      | c :: cs =>
        if t.holds c then
          shortestFirst t next note reach s (least - 1) (most.map (· - 1)) (c :: before) cs left
        else .stuck (reach here left)
termination_by structural _ _ _ after => after

/-- Runs a pattern so many times, then what comes next. -/
def times (trail : Trail τ) (body : Next τ → Next τ) (next : Next τ) : Nat → Next τ
  | 0, s, left => next s left
  | n + 1, s, left =>
    match body (times trail body next n) s (trail.note s left) with
    | .fits r => .fits r
    | .stuck left => .stuck (trail.note s left)

/-- Runs a pattern as often as it fits, then what comes next; then one time less, and so on. A round
that did not move the cursor is the last. -/
def greedyLoop (trail : Trail τ) (body : Next τ → Next τ) (next : Next τ) :
    Nat → Option Nat → Option Nat → Next τ
  | 0, _, _, s, left => next s left
  | fuel + 1, most, last, s, left =>
    let more :=
      if most == some 0 || last == some s.after.length then .stuck left
      else
        body (greedyLoop trail body next fuel (most.map (· - 1)) (some s.after.length)) s
          (trail.note s left)
    match more with
    | .fits r => .fits r
    | .stuck left =>
      match next s (trail.note s left) with
      | .fits r => .fits r
      | .stuck left => .stuck (trail.note s left)

/-- Tries what comes next, and runs the pattern once more only if that fails. -/
def reluctantLoop (trail : Trail τ) (body : Next τ → Next τ) (next : Next τ) :
    Nat → Option Nat → Option Nat → Next τ
  | 0, _, _, s, left => next s left
  | fuel + 1, most, last, s, left =>
    match next s (trail.note s left) with
    | .fits r => .fits r
    | .stuck left =>
      if most == some 0 || last == some s.after.length then .stuck (trail.note s left)
      else
        match
          body (reluctantLoop trail body next fuel (most.map (· - 1)) (some s.after.length)) s
            (trail.note s left) with
        | .fits r => .fits r
        | .stuck left => .stuck (trail.note s left)

/-- Runs a pattern so many times, each time the first way it fits. -/
def timesFirst (body : Next Cursor → Next Cursor) : Nat → Cursor → Option Cursor
  | 0, s => some s
  | n + 1, s =>
    match body done s s with
    | .fits t => timesFirst body n t
    | .stuck _ => none

/-- Runs a pattern as often as it fits, each time the first way it fits. The place is the one at
which the last round got stuck; the groups are those before that round. -/
def possessiveLoop (body : Next Cursor → Next Cursor) :
    Nat → Option Nat → Option Nat → Cursor → Cursor
  | 0, _, _, s => s
  | fuel + 1, most, last, s =>
    if most == some 0 || last == some s.after.length then s
    else
      match body done s s with
      | .fits t => possessiveLoop body fuel (most.map (· - 1)) (some s.after.length) t
      | .stuck left => s.moved left.before left.after

namespace Expr

/-- The condition on one character that comes first in a pattern, if it starts with one; `follow` is
the one that comes first after it. -/
def opening (follow : Option Test) : Expr → Option Test
  | .empty => follow
  | .one t => some t
  | .seq first second => first.opening (second.opening follow)
  | _ => none

/-- Whether it shows at a place that an alternative cannot fit there, before it is tried. -/
def isHopeless (e : Expr) (s : Cursor) : Bool :=
  match e.opening none with
  | some (.char false .exact n) => !s.meets (.char false .exact n)
  | some (.set negated .exact items) => !s.meets (.set negated .exact items)
  | _ => false

end Expr

/-- Whether a place is tried before a pattern that has to start with a given character. -/
def Cursor.suits (s : Cursor) : Option Test → Bool
  | some (.char false .exact n) => s.meets (.char false .exact n)
  | _ => true

/-- Moves the cursor over a pattern and hands it on. `follow` is the condition on one character that
comes right after the pattern, if there is one. A repetition takes at most one round more than there
are characters left, since a round that does not move the cursor is the last. -/
def Expr.run : Expr → {τ : Type} → Trail τ → Option Test → Next τ → Next τ
  | .empty, _, _, _, next, s, left => next s left
  | .fail, _, _, _, _, _, left => .stuck left
  | .one t, _, _, _, next, s, left =>
    match s.after with
    | [] => .stuck left
    | c :: cs => if t.holds c then next (s.moved (c :: s.before) cs) left else .stuck left
  | .anchor a, _, _, _, next, s, left => if a.holds s then next s left else .stuck left
  | .seq first second, _, trail, follow, next, s, left =>
    first.run trail (second.opening follow) (second.run trail follow next) s left
  | .alt first others, _, trail, _, next, s, left =>
    match first.run trail none next s (trail.noteIf (!first.isHopeless s) s left) with
    | .fits r => .fits r
    | .stuck left => others.run trail none next s left
  | .many greed least most t, _, trail, follow, next, s, left =>
    if s.after.length < least then .stuck left
    else
      let left := trail.note s left
      let reach := trail.noteIf t.isFolded
      match greed with
      | .greedy =>
        longestFirst t (fun u left => next u (trail.noteIf (u.suits follow) u left))
          reach s least most
          s.before s.after left
      | .reluctant => shortestFirst t next trail.note reach s least most s.before s.after left
      | .possessive =>
        match longestFirst t done reach s least most s.before s.after left with
        | .fits u => next u (reach u left)
        | .stuck left => .stuck left
  | .rep greed least most body, _, trail, _, next, s, left =>
    let more := most.map (· - least)
    match greed with
    | .greedy =>
      times trail (body.run trail none)
        (fun u => greedyLoop trail (body.run trail none) next (u.after.length + 2) more none u)
        least s left
    | .reluctant =>
      times trail (body.run trail none)
        (fun u => reluctantLoop trail (body.run trail none) next (u.after.length + 2) more none u)
        least s left
    | .possessive =>
      match timesFirst (body.run Trail.last none) least s with
      | none => .stuck (trail.note s left)
      | some u =>
        let stop := possessiveLoop (body.run Trail.last none) (u.after.length + 2) more none u
        next stop (trail.note stop left)
  | .capture group body, _, trail, _, next, s, left =>
    body.run trail none (fun u => next { u with closed := (group, u.after) :: u.closed })
      { s with opened := (group, s.after) :: s.opened } left
  | .atomic body, _, trail, _, next, s, left =>
    match body.run trail none done s (trail.note s left) with
    | .fits u => next u (trail.note u left)
    | .stuck left => .stuck (trail.note s left)
  | .ahead negated body, _, trail, _, next, s, left =>
    match body.run trail none done s (trail.note s left) with
    | .fits u =>
      if negated then .stuck (trail.note u left)
      else next { s with opened := u.opened, closed := u.closed } (trail.note u left)
    | .stuck left => if negated then next s left else .stuck left
  | .behind negated width body, _, trail, _, next, s, left =>
    match s.back width with
    | none => if negated then next s left else .stuck left
    | some back =>
      match body.run trail none done back (trail.note back left) with
      | .fits u =>
        if negated then .stuck (trail.note u left)
        else next { s with opened := u.opened, closed := u.closed } (trail.note u left)
      | .stuck left => if negated then next s left else .stuck left
  | .again group rule, _, _, _, next, s, left =>
    match s.group? group with
    | none => .stuck left
    | some text =>
      match s.over rule text with
      | none => .stuck left
      | some u => next u left
  | .ifCaptured group yes no, _, trail, follow, next, s, left =>
    if (s.group? group).isSome then
      yes.run trail (if no == .empty then follow else none) next s left
    else no.run trail follow next s left

/-- The text that fits, with the number of characters before it and the place after it. -/
structure Found where
  start : Nat
  text : List Code
  cursor : Cursor
deriving DecidableEq, Repr

namespace Found

def stop (f : Found) : Nat :=
  f.start + f.text.length

def group? (f : Found) (group : Nat) : Option (List Code) :=
  f.cursor.group? group

end Found

namespace Expr

/-- How a pattern fits at the place between two parts of a text. -/
def fitAt (e : Expr) (before after : List Code) : Option Found :=
  let s := Cursor.between before after
  match e.run Trail.nothing none done s () with
  | .fits t => some ⟨before.length, s.textTo t, t⟩
  | .stuck _ => none

def fitStart (e : Expr) (text : List Code) : Option Found :=
  e.fitAt [] text

def searchFrom (e : Expr) (before : List Code) : List Code → Option Found
  | [] => e.fitAt before []
  | c :: cs =>
    match e.fitAt before (c :: cs) with
    | some f => some f
    | none => searchFrom e (c :: before) cs

/-- The first place of a text where a pattern fits. -/
def search (e : Expr) (text : List Code) : Option Found :=
  e.searchFrom [] text

/-- The first place at or after the cursor where a character meets a condition and a pattern fits.
-/
def searchAmongFrom (e : Expr) (t : Test) (before : List Code) : List Code → Option Found
  | [] => none
  | c :: cs =>
    match if t.holds c then e.fitAt before (c :: cs) else none with
    | some f => some f
    | none => searchAmongFrom e t (c :: before) cs

/-- The first place of a text where a character meets a condition and a pattern fits. -/
def searchAmong (e : Expr) (t : Test) (text : List Code) : Option Found :=
  e.searchAmongFrom t [] text

end Expr

end Actionary.Pattern
