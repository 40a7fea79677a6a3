/-! Colours of the terminal. A style is switched on before a text and everything is switched off
behind it; where the text itself switches off, the style comes on again. -/

namespace LogSieve.Report

inductive Style where
  | faint
  | heading
  | query
  | value
  | label
  | warning
  deriving DecidableEq

/-- The parameters of the control sequence that switches a style on. -/
def Style.code : Style → String
  | faint => "2"
  | heading => "1;94"
  | query => "97"
  | value => "32"
  | label => "1"
  | warning => "1;33"

def sequence (code : String) : List Char := '\x1b' :: '[' :: code.toList ++ ['m']

/-- Put `on` behind every sequence that switches all off. -/
def resume (on : List Char) : List Char → List Char
  | [] => []
  | '\x1b' :: '[' :: '0' :: 'm' :: rest => '\x1b' :: '[' :: '0' :: 'm' :: on ++ resume on rest
  | c :: rest => c :: resume on rest

/-- The text in a style, or as it is where colours are off. -/
def paint (colour : Bool) (style : Style) (text : String) : String :=
  if colour then
    let on := sequence style.code
    String.ofList (on ++ resume on text.toList ++ sequence "0")
  else text

end LogSieve.Report
