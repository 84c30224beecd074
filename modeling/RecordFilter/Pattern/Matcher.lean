/-
# Matching

A pattern is made ready once (`Matcher.ofPattern`) and then matched against any number of subjects.
A pattern with a mistake, with too many levels or with too large a program matches nothing.  Only
strings can match.
-/

import RecordFilter.Pattern.Reader
import RecordFilter.Pattern.Footprint
import RecordFilter.Pattern.Search
import RecordFilter.Pattern.Glob
import RecordFilter.Value.Basic

namespace RecordFilter

/-- The two kinds of pattern. -/
inductive PatternKind where
  /-- A search pattern, which may match a part of the subject. -/
  | search
  /-- A glob, which matches the whole subject. -/
  | glob
deriving DecidableEq, Repr

/-- A pattern that is ready to be matched. -/
inductive Matcher where
  /-- Matches one text. -/
  | exact (text : String)
  /-- Searches for a pattern; `source` is how it is written. -/
  | search (source : String) (regex : Pattern.Regex)
  /-- Matches nothing. -/
  | never
deriving Inhabited

namespace Pattern

/-- The meaning of a pattern that has one and whose program is not too large. -/
def Regex.ofText? (source : List Char) : Option Regex :=
  match (Syntax.ofText? source).bind ofSyntax? with
  | some r => if r.isSmall then some r else none
  | none => none

end Pattern

namespace Matcher

/-- Makes a search pattern ready. -/
def ofSearch (source : List Char) : Matcher :=
  match Pattern.Regex.ofText? source with
  | some r => search (.ofList source) r
  | none => never

/-- Makes a glob ready. -/
def ofGlob (glob : List Char) : Matcher :=
  if Pattern.Glob.isPlain glob then exact (.ofList glob)
  else
    match Pattern.Glob.toPattern? glob with
    | some source => ofSearch source
    | none => never

/-- Makes a pattern ready. -/
def ofPattern (kind : PatternKind) (pattern : String) : Matcher :=
  match kind with
  | .search => ofSearch pattern.toList
  | .glob => ofGlob pattern.toList

/-- Whether a text matches. -/
def matchesText (m : Matcher) (subject : String) : Bool :=
  match m with
  | exact text => subject == text
  | search _ regex => regex.occursIn subject.toList
  | never => false

/-- Whether a value matches. -/
def matchesValue (m : Matcher) (subject : Value) : Bool :=
  subject.text?.any m.matchesText

end Matcher

namespace PatternKind

/-- Whether a value matches a pattern that is itself a value. -/
def holds (kind : PatternKind) (subject pattern : Value) : Bool :=
  match subject, pattern with
  | .string s, .string p => (Matcher.ofPattern kind p).matchesText s
  | _, _ => false

end PatternKind

end RecordFilter
