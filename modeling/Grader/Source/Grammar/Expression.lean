import Grader.Source.Build

/-!
The grammar of expressions and of the targets of assignments.
-/

namespace Grader.Source.Grammar

open Build ExpressionRule

/-- A left associative operator level: operands of the level below it, joined by operators. -/
def binaryLevel (level below : ExpressionRule) (operators : List String) : Peg.Body Production :=
  leftRec (operators.map (fun op =>
    alt [level, .word op, below] (node .binOp [(0, .left), (2, .right)])) ++ [just below])

/-- Operands joined by a word such as `or`. -/
def joined (below : ExpressionRule) (word : String) : Peg.Body Production :=
  memo [
    alt [below, .some (seq [.word word, below] 1)] (node .boolOp [(0, .values), (1, .values)]),
    just below]

/-- Expressions separated by commas: several make a tuple, and so does one with a comma. -/
def commaList (element : ExpressionRule) : Peg.Body Production :=
  once [
    alt [element, .some (seq [",", element] 1), .opt ","] (node .tuple [(0, .elts), (1, .elts)]),
    alt [element, ","] (node .tuple [(0, .elts)]),
    just element]

/-- An element of a comprehension in parentheses, or an argument. -/
def plainElement : E :=
  .group [just assignmentExpression, alt [expression, .absent ":="] (pick 0)]

def conditions : E := .many (seq ["if", disjunction] 1)

/-- The dotted step that ends a target. -/
def memberTarget : Peg.Alternative Production :=
  alt [targetPrimary, ".", name, .absent targetLookahead] (member 2)

def subscriptTarget : Peg.Alternative Production :=
  alt [targetPrimary, "[", slices, "]", .absent targetLookahead]
    (node .subscript [(0, .value), (2, .slice)])

def expressionBody : ExpressionRule → Peg.Body Production
  | .evaluated => once [alt [expressions, .many newline, .kind .endOfText] (pick 0)]
  | .embedded => once [just starExpressions]
  | .expressions => commaList expression
  | .expression => memo [
      diagnose .expression,
      diagnose .legacyExpression,
      alt [disjunction, "if", disjunction, "else", expression]
        (node .ifExp [(2, .test), (0, .body), (4, .orElse)]),
      just disjunction,
      just lambdef]
  | .yieldExpr => once [
      alt ["yield", "from", expression] (node .yieldFrom [(2, .value)]),
      alt ["yield", .opt starExpressions] (node .yieldExpr [(1, .value)])]
  | .starExpressions => commaList starExpression
  | .starExpression => memo [
      alt ["*", bitwiseOr] (node .starred [(1, .value)]),
      just expression]
  | .starNamedExpressions => once [alt [.sep "," starNamedExpression, .opt ","] (pick 0)]
  | .starNamedExpression => once [
      alt ["*", bitwiseOr] (node .starred [(1, .value)]),
      just namedExpression]
  | .assignmentExpression => once [
      alt [name, ":=", .cut, expression] (node .namedExpr [(0, .target), (3, .value)])]
  | .namedExpression => once [
      just assignmentExpression,
      diagnose .namedExpression,
      alt [expression, .absent ":="] (pick 0)]
  | .disjunction => joined conjunction "or"
  | .conjunction => joined inversion "and"
  | .inversion => memo [
      alt ["not", inversion] (node .unaryOp [(1, .operand)]),
      just comparison]
  | .comparison => once [alt [bitwiseOr, .some comparePair] compare, just bitwiseOr]
  | .comparePair => once [
      alt ["==", bitwiseOr] (tagged "==" 1),
      alt ["!=", bitwiseOr] (tagged "!=" 1),
      alt ["<=", bitwiseOr] (tagged "<=" 1),
      alt ["<", bitwiseOr] (tagged "<" 1),
      alt [">=", bitwiseOr] (tagged ">=" 1),
      alt [">", bitwiseOr] (tagged ">" 1),
      alt ["not", "in", bitwiseOr] (tagged "not in" 2),
      alt ["in", bitwiseOr] (tagged "in" 1),
      alt ["is", "not", bitwiseOr] (tagged "is not" 2),
      alt ["is", bitwiseOr] (tagged "is" 1)]
  | .bitwiseOr => binaryLevel bitwiseOr bitwiseXor ["|"]
  | .bitwiseXor => binaryLevel bitwiseXor bitwiseAnd ["^"]
  | .bitwiseAnd => binaryLevel bitwiseAnd shiftExpr ["&"]
  | .shiftExpr => binaryLevel shiftExpr sum ["<<", ">>"]
  | .sum => binaryLevel sum term ["+", "-"]
  | .term => binaryLevel term factor ["*", "/", "//", "%", "@"]
  | .factor => memo [
      alt ["+", factor] (node .unaryOp [(1, .operand)]),
      alt ["-", factor] (node .unaryOp [(1, .operand)]),
      alt ["~", factor] (node .unaryOp [(1, .operand)]),
      just power]
  | .power => once [
      alt [awaitPrimary, "**", factor] (node .binOp [(0, .left), (2, .right)]),
      just awaitPrimary]
  | .awaitPrimary => memo [alt ["await", primary] (node .await [(1, .value)]), just primary]
  | .primary => leftRec [
      alt [primary, ".", name] (member 2),
      alt [primary, genExp] (node .call [(0, .func), (1, .args)]),
      alt [primary, "(", .opt ExpressionRule.arguments, ")"] call,
      alt [primary, "[", slices, "]"] (node .subscript [(0, .value), (2, .slice)]),
      just atom]
  | .slices => once [
      alt [slice, .absent ","] (pick 0),
      alt [.sep "," (oneOf [slice, starredExpression]), .opt ","] (node .tuple [(0, .elts)])]
  | .slice => once [
      alt [.opt expression, ":", .opt expression, .opt (seq [":", .opt expression] 1)]
        (node .slice [(0, .lower), (2, .upper), (3, .step)]),
      just namedExpression]
  | .atom => once [
      just name,
      alt ["True"] (constant (.truth true)),
      alt ["False"] (constant (.truth false)),
      alt ["None"] (constant .none),
      alt [.ahead (.kind .text), strings] (pick 1),
      just (.kind .number),
      alt [.ahead "(", oneOf [tupleDisplay, groupExpr, genExp]] (pick 1),
      alt [.ahead "[", oneOf [listDisplay, listComp]] (pick 1),
      alt [.ahead opening, oneOf [dictDisplay, setDisplay, dictComp, setComp]] (pick 1),
      alt ["..."] (constant .ellipsis)]
  | .groupExpr => once [
      alt ["(", oneOf [yieldExpr, namedExpression], ")"] (pick 1),
      diagnose .group]
  | .strings => memo [just .literals]
  | .lambdef => once [alt ["lambda", .opt lambdaParams, ":", expression] lambda]
  | .lambdaParams => once [diagnose .lambdaParameters, just lambdaParameters]
  | .lambdaParameters => once [
      alt [lambdaSlashNoDefault, .many lambdaParamNoDefault, .many lambdaParamWithDefault,
          .opt lambdaStarEtc]
        (parameters (fun xs => (nth xs 0).items)
          (fun xs => (nth xs 1).items ++ (nth xs 2).items) (nth · 3)),
      alt [lambdaSlashWithDefault, .many lambdaParamWithDefault, .opt lambdaStarEtc]
        (parameters (fun xs => (nth xs 0).items) (fun xs => (nth xs 1).items) (nth · 2)),
      alt [.some lambdaParamNoDefault, .many lambdaParamWithDefault, .opt lambdaStarEtc]
        (parameters (fun _ => []) (fun xs => (nth xs 0).items ++ (nth xs 1).items) (nth · 2)),
      alt [.some lambdaParamWithDefault, .opt lambdaStarEtc]
        (parameters (fun _ => []) (fun xs => (nth xs 0).items) (nth · 1)),
      alt [lambdaStarEtc] (parameters (fun _ => []) (fun _ => []) (nth · 0))]
  | .lambdaSlashNoDefault => once [
      alt [.some lambdaParamNoDefault, "/", ","] (pick 0),
      alt [.some lambdaParamNoDefault, "/", .ahead ":"] (pick 0)]
  | .lambdaSlashWithDefault => once [
      alt [.many lambdaParamNoDefault, .some lambdaParamWithDefault, "/", ","]
        (fun _ xs => .yield (.many ((nth xs 0).items ++ (nth xs 1).items))),
      alt [.many lambdaParamNoDefault, .some lambdaParamWithDefault, "/", .ahead ":"]
        (fun _ xs => .yield (.many ((nth xs 0).items ++ (nth xs 1).items)))]
  | .lambdaStarEtc => once [
      diagnose .lambdaStarEtc,
      alt ["*", lambdaParamNoDefault, .many lambdaParamMaybeDefault, .opt lambdaKwds]
        (starParameters (some 1) 2 3),
      alt ["*", ",", .some lambdaParamMaybeDefault, .opt lambdaKwds] (starParameters none 2 3),
      alt [lambdaKwds] (starParameters none 9 0)]
  | .lambdaKwds => once [diagnose .lambdaKwds, alt ["**", lambdaParamNoDefault] (pick 1)]
  | .lambdaParamNoDefault => once [
      alt [lambdaParam, ","] (pick 0),
      alt [lambdaParam, .ahead ":"] (pick 0)]
  | .lambdaParamWithDefault => once [
      alt [lambdaParam, .rule (.statement .defaultValue), ","] (pairOf 0 1),
      alt [lambdaParam, .rule (.statement .defaultValue), .ahead ":"] (pairOf 0 1)]
  | .lambdaParamMaybeDefault => once [
      alt [lambdaParam, .opt (.rule (.statement .defaultValue)), ","] (pairOf 0 1),
      alt [lambdaParam, .opt (.rule (.statement .defaultValue)), .ahead ":"] (pairOf 0 1)]
  | .lambdaParam => once [alt [name] param]
  | .listDisplay => once [alt ["[", .opt starNamedExpressions, "]"] (node .list [(1, .elts)])]
  | .tupleDisplay => once [
      alt ["(", .opt (.group [alt [starNamedExpression, ",", .opt starNamedExpressions] gather]),
          ")"]
        (node .tuple [(1, .elts)])]
  | .setDisplay => once [alt [opening, starNamedExpressions, closing] (node .set [(1, .elts)])]
  | .dictDisplay => once [
      alt [opening, .opt starredPairs, closing] dict,
      alt [opening, FaultRule.starredPairs, closing] (pick 1)]
  | .starredPairs => once [alt [.sep "," starredPair, .opt ","] (pick 0)]
  | .starredPair => once [alt ["**", bitwiseOr] unpacked, just pair]
  | .pair => once [alt [expression, ":", expression] (pairOf 0 2)]
  | .forIfClauses => once [just (.some forIfClause)]
  | .forIfClause => once [
      alt ["async", "for", starTargets, "in", .cut, disjunction, conditions]
        (bare .comprehension [(2, .target), (5, .iter), (6, .ifs)]),
      alt ["for", starTargets, "in", .cut, disjunction, conditions]
        (bare .comprehension [(1, .target), (4, .iter), (5, .ifs)]),
      diagnose .forTarget]
  | .listComp => once [
      alt ["[", namedExpression, forIfClauses, "]"] (node .listComp [(1, .elt), (2, .generators)]),
      diagnose .comprehension]
  | .setComp => once [
      alt [opening, namedExpression, forIfClauses, closing]
        (node .setComp [(1, .elt), (2, .generators)]),
      diagnose .comprehension]
  | .genExp => once [
      alt ["(", plainElement, forIfClauses, ")"]
        (node .generatorExp [(1, .elt), (2, .generators)]),
      diagnose .comprehension]
  | .dictComp => once [
      alt [opening, pair, forIfClauses, closing] Build.dictComp,
      diagnose .dictComprehension]
  | .arguments => memo [
      alt [args, .opt ",", .ahead ")"] (pick 0),
      diagnose .arguments]
  | .args => once [
      alt [.sep "," (.group [just starredExpression, alt [plainElement, .absent "="] (pick 0)]),
          .opt (seq [",", kwargs] 1)]
        (Build.arguments 0 1),
      alt [kwargs] (Build.arguments 9 0)]
  | .kwargs => once [
      alt [.sep "," kwargOrStarred, ",", .sep "," kwargOrDoubleStarred] gather,
      just (.sep "," kwargOrStarred),
      just (.sep "," kwargOrDoubleStarred)]
  | .starredExpression => once [alt ["*", expression] (node .starred [(1, .value)])]
  | .kwargOrStarred => once [
      diagnose .kwarg,
      alt [name, "=", expression] keyword,
      just starredExpression]
  | .kwargOrDoubleStarred => once [
      diagnose .kwarg,
      alt [name, "=", expression] keyword,
      alt ["**", expression] (node (.keyword none) [(1, .value)])]
  | .starTargets => once [
      alt [starTarget, .absent ","] (pick 0),
      alt [starTarget, .many (seq [",", starTarget] 1), .opt ","]
        (node .tuple [(0, .elts), (1, .elts)])]
  | .starTargetsListSeq => once [alt [.sep "," starTarget, .opt ","] (pick 0)]
  | .starTargetsTupleSeq => once [
      alt [starTarget, .some (seq [",", starTarget] 1), .opt ","] gather,
      alt [starTarget, ","] (pick 0)]
  | .starTarget => memo [
      alt ["*", seq [.absent "*", starTarget] 1] (node .starred [(1, .value)]),
      just targetWithStarAtom]
  | .targetWithStarAtom => memo [memberTarget, subscriptTarget, just starAtom]
  | .starAtom => once [
      just name,
      alt ["(", targetWithStarAtom, ")"] (pick 1),
      alt ["(", .opt starTargetsTupleSeq, ")"] (node .tuple [(1, .elts)]),
      alt ["[", .opt starTargetsListSeq, "]"] (node .list [(1, .elts)])]
  | .singleTarget => once [
      just singleSubscriptTarget,
      just name,
      alt ["(", singleTarget, ")"] (pick 1)]
  | .singleSubscriptTarget => once [memberTarget, subscriptTarget]
  | .targetPrimary => leftRec [
      alt [targetPrimary, ".", name, .ahead targetLookahead] (member 2),
      alt [targetPrimary, "[", slices, "]", .ahead targetLookahead]
        (node .subscript [(0, .value), (2, .slice)]),
      alt [targetPrimary, genExp, .ahead targetLookahead] (node .call [(0, .func), (1, .args)]),
      alt [targetPrimary, "(", .opt ExpressionRule.arguments, ")", .ahead targetLookahead] call,
      alt [atom, .ahead targetLookahead] (pick 0)]
  | .targetLookahead => once [just "(", just "[", just "."]
  | .delTargets => once [alt [.sep "," delTarget, .opt ","] (pick 0)]
  | .delTarget => memo [memberTarget, subscriptTarget, just delTargetAtom]
  | .delTargetAtom => once [
      just name,
      alt ["(", delTarget, ")"] (pick 1),
      alt ["(", .opt delTargets, ")"] (node .tuple [(1, .elts)]),
      alt ["[", .opt delTargets, "]"] (node .list [(1, .elts)])]

end Grader.Source.Grammar
