import Grader.Source.Build

/-!
The grammar of patterns.
-/

namespace Grader.Source.Grammar

open Build PatternRule

/-- What may not follow a capture or a value: it would be part of something longer. -/
def noContinuation : E := .absent (oneOf [".", "(", "="])

/-- The signed and complex numbers, strings and constants that a pattern may hold; `wrap` makes a
pattern or an expression of a value, and `single` of a constant such as `None`. -/
def literalAlternatives (wrap : Peg.Build) (single : Constant → Peg.Build) : Peg.Body Production :=
  once [
    alt [signedNumber, .absent (oneOf ["+", "-"])] wrap,
    alt [complexNumber] wrap,
    alt [ExpressionRule.strings] wrap,
    alt ["None"] (single .none),
    alt ["True"] (single (.truth true)),
    alt ["False"] (single (.truth false))]

def patternBody : PatternRule → Peg.Body Production
  | .patterns => once [
      alt [openSequencePattern] (node .matchSequence [(0, .patterns)]),
      just pattern]
  | .pattern => once [just asPattern, just orPattern]
  | .asPattern => once [
      alt [orPattern, "as", captureTarget] (node .matchAs [(0, .pattern)]),
      diagnose .asPattern]
  | .orPattern => once [
      alt [.sep "|" closedPattern] (fun s xs =>
        match (nth xs 0).items with
        | [single] => .yield single
        | _ => node .matchOr [(0, .patterns)] s xs)]
  | .closedPattern => memo [
      just literalPattern,
      alt [captureTarget] (node .matchAs []),
      just wildcardPattern,
      just valuePattern,
      just groupPattern,
      just sequencePattern,
      just mappingPattern,
      just classPattern]
  | .literalPattern =>
      literalAlternatives (node .matchValue [(0, .value)]) (fun _ => node .matchSingleton [])
  | .literalExpr => literalAlternatives (pick 0) constant
  | .complexNumber => once [
      alt [signedRealNumber, "+", imaginaryNumber] (node .binOp [(0, .left), (2, .right)]),
      alt [signedRealNumber, "-", imaginaryNumber] (node .binOp [(0, .left), (2, .right)])]
  | .signedNumber => once [
      just (.kind .number),
      alt ["-", .kind .number] (node .unaryOp [(1, .operand)])]
  | .signedRealNumber => once [
      just realNumber,
      alt ["-", realNumber] (node .unaryOp [(1, .operand)])]
  | .realNumber => once [alt [.kind .number] (numberOf false)]
  | .imaginaryNumber => once [alt [.kind .number] (numberOf true)]
  | .captureTarget => once [alt [.absent (.soft "_"), name, noContinuation] (pick 1)]
  | .wildcardPattern => once [alt [.soft "_"] (node .matchAs [])]
  | .valuePattern => once [alt [attr, noContinuation] (node .matchValue [(0, .value)])]
  | .attr => leftRec [alt [nameOrAttr, ".", name] (member 2)]
  | .nameOrAttr => once [just attr, just name]
  | .groupPattern => once [alt ["(", pattern, ")"] (pick 1)]
  | .sequencePattern => once [
      alt ["[", .opt maybeSequencePattern, "]"] (node .matchSequence [(1, .patterns)]),
      alt ["(", .opt openSequencePattern, ")"] (node .matchSequence [(1, .patterns)])]
  | .openSequencePattern => once [
      alt [maybeStarPattern, ",", .opt maybeSequencePattern] gather]
  | .maybeSequencePattern => once [alt [.sep "," maybeStarPattern, .opt ","] (pick 0)]
  | .maybeStarPattern => once [just starPattern, just pattern]
  | .starPattern => memo [
      alt ["*", captureTarget] (node .matchStar []),
      alt ["*", wildcardPattern] (node .matchStar [])]
  | .mappingPattern => once [
      alt [opening, closing] (node .matchMapping []),
      alt [opening, doubleStarPattern, .opt ",", closing] (node .matchMapping []),
      alt [opening, itemsPattern, ",", doubleStarPattern, .opt ",", closing] (mapping 1),
      alt [opening, itemsPattern, .opt ",", closing] (mapping 1)]
  | .itemsPattern => once [just (.sep "," keyValuePattern)]
  | .keyValuePattern => once [alt [oneOf [literalExpr, attr], ":", pattern] (pairOf 0 2)]
  | .doubleStarPattern => once [alt ["**", captureTarget] (pick 1)]
  | .classPattern => once [
      alt [nameOrAttr, "(", ")"] (node .matchClass [(0, .cls)]),
      alt [nameOrAttr, "(", positionalPatterns, .opt ",", ")"]
        (node .matchClass [(0, .cls), (2, .patterns)]),
      alt [nameOrAttr, "(", keywordPatterns, .opt ",", ")"]
        (node .matchClass [(0, .cls), (2, .kwdPatterns)]),
      alt [nameOrAttr, "(", positionalPatterns, ",", keywordPatterns, .opt ",", ")"]
        (node .matchClass [(0, .cls), (2, .patterns), (4, .kwdPatterns)]),
      diagnose .classPattern]
  | .positionalPatterns => once [just (.sep "," pattern)]
  | .keywordPatterns => once [just (.sep "," keywordPattern)]
  | .keywordPattern => once [alt [name, "=", pattern] (pick 2)]

end Grader.Source.Grammar
