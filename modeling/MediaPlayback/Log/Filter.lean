import MediaPlayback.Log.Directive

/-! Which log entries are kept. A filter is a list of directives, and of those that apply to an entry
the most particular one counts. -/

namespace MediaPlayback

/-- A filter of log entries. -/
abbrev LogFilter := List LogDirective

namespace LogFilter

/-- The filter of directives with commas between them. Nothing between two commas is no directive.
The first directive that cannot be read decides what is wrong. -/
def ofText (text : String) : Except DirectiveFault LogFilter :=
  ((pieces (· == ',') text.toList).filter (!·.isEmpty)).mapM LogDirective.ofChars

/-- The directive that counts for an entry: the most particular one, and of several the last. -/
def directiveFor? (f : LogFilter) (r : LogRecord) : Option LogDirective :=
  (f.filter (·.appliesTo r)).foldl
    (fun best d => if best.all fun b => b.weight ≤ d.weight then some d else best) none

/-- Whether an entry is kept. -/
def keeps (f : LogFilter) (r : LogRecord) : Bool :=
  match f.directiveFor? r with
  | none => false
  | some d => d.level.any (· ≤ r.level)

end LogFilter
end MediaPlayback
