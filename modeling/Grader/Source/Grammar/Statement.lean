import Grader.Source.Build

/-!
The grammar of statements.
-/

namespace Grader.Source.Grammar

open Build StatementRule ExpressionRule PatternRule

/-- The value of an annotated assignment, behind its equals sign. -/
def annotatedValue : E := .opt (seq ["=", annotatedRhs] 1)

def assigned : E := oneOf [yieldExpr, starExpressions]

def statementBody : StatementRule → Peg.Body Production
  | .file => once [alt [.opt statements, .kind .endOfText] (bare .module [(0, .body)])]
  | .statements => once [just (.some statement)]
  | .statement => once [just compoundStmt, just simpleStmts]
  | .simpleStmts => once [
      alt [simpleStmt, .absent ";", newline] (pick 0),
      alt [.sep ";" simpleStmt, .opt ";", newline] (pick 0)]
  | .simpleStmt => memo [
      just assignment,
      alt [starExpressions] (node .exprStmt [(0, .value)]),
      alt [.ahead "return", returnStmt] (pick 1),
      alt [.ahead (oneOf ["import", "from"]), importStmt] (pick 1),
      alt [.ahead "raise", raiseStmt] (pick 1),
      alt ["pass"] (node .pass []),
      alt [.ahead "del", delStmt] (pick 1),
      alt [.ahead "yield", yieldExpr] (node .exprStmt [(1, .value)]),
      alt [.ahead "assert", assertStmt] (pick 1),
      alt ["break"] (node .breakStmt []),
      alt ["continue"] (node .continueStmt []),
      alt [.ahead "global", globalStmt] (pick 1),
      alt [.ahead "nonlocal", nonlocalStmt] (pick 1)]
  | .compoundStmt => once [
      alt [.ahead (oneOf ["def", "@", "async"]), functionDef] (pick 1),
      alt [.ahead "if", ifStmt] (pick 1),
      alt [.ahead (oneOf ["class", "@"]), classDef] (pick 1),
      alt [.ahead (oneOf ["with", "async"]), withStmt] (pick 1),
      alt [.ahead (oneOf ["for", "async"]), forStmt] (pick 1),
      alt [.ahead "try", tryStmt] (pick 1),
      alt [.ahead "while", whileStmt] (pick 1),
      just matchStmt]
  | .assignment => once [
      alt [name, ":", expression, annotatedValue]
        (node .annAssign [(0, .target), (2, .typeHint), (3, .value)]),
      alt [.group [alt ["(", singleTarget, ")"] (pick 1), just singleSubscriptTarget], ":",
          expression, annotatedValue]
        (node .annAssign [(0, .target), (2, .typeHint), (3, .value)]),
      alt [.some (seq [starTargets, "="] 0), assigned, .absent "="]
        (node .assign [(0, .targets), (1, .value)]),
      alt [singleTarget, augAssign, .cut, assigned]
        (node .augAssign [(0, .target), (3, .value)]),
      diagnose .assignment]
  | .annotatedRhs => once [just yieldExpr, just starExpressions]
  | .augAssign => once
      (["+=", "-=", "*=", "@=", "/=", "%=", "&=", "|=", "^=", "<<=", ">>=", "**=", "//="].map
        fun op => just (.word op))
  | .returnStmt => once [alt ["return", .opt starExpressions] (node .returnStmt [(1, .value)])]
  | .raiseStmt => once [
      alt ["raise", expression, .opt (seq ["from", expression] 1)]
        (node .raise [(1, .exc), (2, .cause)]),
      alt ["raise"] (node .raise [])]
  | .globalStmt => once [alt ["global", .sep "," name] (node .globalStmt [])]
  | .nonlocalStmt => once [alt ["nonlocal", .sep "," name] (node .nonlocalStmt [])]
  | .delStmt => once [
      alt ["del", delTargets, .ahead (oneOf [";", newline])] (node .delete [(1, .targets)]),
      diagnose .delStmt]
  | .assertStmt => once [
      alt ["assert", expression, .opt (seq [",", expression] 1)]
        (node .assertStmt [(1, .test), (2, .message)])]
  | .importStmt => once [just importName, just importFrom]
  | .importName => once [alt ["import", dottedAsNames] (node .importStmt [(1, .names)])]
  | .importFrom => once [
      alt ["from", .many (oneOf [".", "..."]), moduleName, "import", importTargets]
        (Build.importFrom 1 2 4),
      alt ["from", .some (oneOf [".", "..."]), "import", importTargets]
        (Build.importFrom 1 9 3)]
  | .importTargets => once [
      alt ["(", importAsNames, .opt ",", ")"] (pick 1),
      alt [importAsNames, .absent ","] (pick 0),
      alt ["*"] importAlias,
      diagnose .importTargets]
  | .importAsNames => once [just (.sep "," importAsName)]
  | .importAsName => once [alt [name, .opt (seq ["as", name] 1)] importAlias]
  | .dottedAsNames => once [just (.sep "," dottedAsName)]
  | .dottedAsName => once [alt [moduleName, .opt (seq ["as", name] 1)] importAlias]
  | .moduleName => leftRec [alt [moduleName, ".", name] joinNames, alt [name] nameText]
  | .block => memo [
      alt [newline, .kind .indent, statements, .kind .dedent] (pick 2),
      just simpleStmts,
      diagnose .block]
  | .decorators => once [just (.some (seq ["@", namedExpression, newline] 1))]
  | .classDef => once [alt [decorators, classDefRaw] decorated, just classDefRaw]
  | .classDefRaw => once [
      diagnose .classDefRaw,
      alt ["class", name, .opt (seq ["(", .opt arguments, ")"] 1), ":", block] Build.classDef]
  | .functionDef => once [alt [decorators, functionDefRaw] decorated, just functionDefRaw]
  | .functionDefRaw => once [
      diagnose .defRaw,
      alt ["def", name, .forced "(", .opt params, ")", .opt (seq ["->", expression] 1),
          .forced ":", block]
        (function .functionDef 1 3 7 5),
      alt ["async", "def", name, .forced "(", .opt params, ")", .opt (seq ["->", expression] 1),
          .forced ":", block]
        (function .asyncFunctionDef 2 4 8 6)]
  | .params => once [diagnose .parameters, just parameters]
  | .parameters => once [
      alt [slashNoDefault, .many paramNoDefault, .many paramWithDefault, .opt starEtc]
        (Build.parameters (fun xs => (nth xs 0).items)
          (fun xs => (nth xs 1).items ++ (nth xs 2).items) (nth · 3)),
      alt [slashWithDefault, .many paramWithDefault, .opt starEtc]
        (Build.parameters (fun xs => (nth xs 0).items) (fun xs => (nth xs 1).items) (nth · 2)),
      alt [.some paramNoDefault, .many paramWithDefault, .opt starEtc]
        (Build.parameters (fun _ => []) (fun xs => (nth xs 0).items ++ (nth xs 1).items)
          (nth · 2)),
      alt [.some paramWithDefault, .opt starEtc]
        (Build.parameters (fun _ => []) (fun xs => (nth xs 0).items) (nth · 1)),
      alt [starEtc] (Build.parameters (fun _ => []) (fun _ => []) (nth · 0))]
  | .slashNoDefault => once [
      alt [.some paramNoDefault, "/", ","] (pick 0),
      alt [.some paramNoDefault, "/", .ahead ")"] (pick 0)]
  | .slashWithDefault => once [
      alt [.many paramNoDefault, .some paramWithDefault, "/", ","]
        (fun _ xs => .yield (.many ((nth xs 0).items ++ (nth xs 1).items))),
      alt [.many paramNoDefault, .some paramWithDefault, "/", .ahead ")"]
        (fun _ xs => .yield (.many ((nth xs 0).items ++ (nth xs 1).items)))]
  | .starEtc => once [
      diagnose .starEtc,
      alt ["*", paramNoDefault, .many paramMaybeDefault, .opt kwds]
        (starParameters (some 1) 2 3),
      alt ["*", paramStarHint, .many paramMaybeDefault, .opt kwds]
        (starParameters (some 1) 2 3),
      alt ["*", ",", .some paramMaybeDefault, .opt kwds] (starParameters none 2 3),
      alt [kwds] (starParameters none 9 0)]
  | .kwds => once [diagnose .kwds, alt ["**", paramNoDefault] (pick 1)]
  | .paramNoDefault => once [
      alt [StatementRule.param, ","] (pick 0),
      alt [StatementRule.param, .ahead ")"] (pick 0)]
  | .paramStarHint => once [
      alt [.group [alt [name, seq [":", starExpression] 1] Build.param], ","] (pick 0),
      alt [.group [alt [name, seq [":", starExpression] 1] Build.param], .ahead ")"] (pick 0)]
  | .paramWithDefault => once [
      alt [StatementRule.param, StatementRule.defaultValue, ","] (pairOf 0 1),
      alt [StatementRule.param, StatementRule.defaultValue, .ahead ")"] (pairOf 0 1)]
  | .paramMaybeDefault => once [
      alt [StatementRule.param, .opt StatementRule.defaultValue, ","] (pairOf 0 1),
      alt [StatementRule.param, .opt StatementRule.defaultValue, .ahead ")"] (pairOf 0 1)]
  | .param => once [alt [name, .opt typeHint] Build.param]
  | .typeHint => once [alt [":", expression] (pick 1)]
  | .defaultValue => once [alt ["=", expression] (pick 1), diagnose .defaultValue]
  | .ifStmt => once [
      diagnose .ifStmt,
      alt ["if", namedExpression, ":", block, elifStmt]
        (node .ifStmt [(1, .test), (3, .body), (4, .orElse)]),
      alt ["if", namedExpression, ":", block, .opt elseBlock]
        (node .ifStmt [(1, .test), (3, .body), (4, .orElse)])]
  | .elifStmt => once [
      diagnose .elifStmt,
      alt ["elif", namedExpression, ":", block, elifStmt]
        (node .ifStmt [(1, .test), (3, .body), (4, .orElse)]),
      alt ["elif", namedExpression, ":", block, .opt elseBlock]
        (node .ifStmt [(1, .test), (3, .body), (4, .orElse)])]
  | .elseBlock => once [diagnose .elseStmt, alt ["else", .forced ":", block] (pick 2)]
  | .whileStmt => once [
      diagnose .whileStmt,
      alt ["while", namedExpression, ":", block, .opt elseBlock]
        (node .whileLoop [(1, .test), (3, .body), (4, .orElse)])]
  | .forStmt => once [
      diagnose .forStmt,
      alt ["for", starTargets, "in", .cut, starExpressions, ":", block, .opt elseBlock]
        (node .forLoop [(1, .target), (4, .iter), (6, .body), (7, .orElse)]),
      alt ["async", "for", starTargets, "in", .cut, starExpressions, ":", block, .opt elseBlock]
        (node .asyncForLoop [(2, .target), (5, .iter), (7, .body), (8, .orElse)]),
      diagnose .forTarget]
  | .withStmt => once [
      diagnose .withStmtIndent,
      alt ["with", "(", .sep "," withItem, .opt ",", ")", ":", block]
        (node .withStmt [(2, .items), (6, .body)]),
      alt ["with", .sep "," withItem, ":", block] (node .withStmt [(1, .items), (3, .body)]),
      alt ["async", "with", "(", .sep "," withItem, .opt ",", ")", ":", block]
        (node .asyncWithStmt [(3, .items), (7, .body)]),
      alt ["async", "with", .sep "," withItem, ":", block]
        (node .asyncWithStmt [(2, .items), (4, .body)]),
      diagnose .withStmt]
  | .withItem => once [
      alt [expression, "as", starTarget, .ahead (oneOf [",", ")", ":"])]
        (bare .withItem [(0, .contextExpr), (2, .optionalVars)]),
      diagnose .withItem,
      alt [expression] (bare .withItem [(0, .contextExpr)])]
  | .tryStmt => once [
      diagnose .tryStmt,
      alt ["try", .forced ":", block, finallyBlock]
        (node .tryStmt [(2, .body), (3, .finalBody)]),
      alt ["try", .forced ":", block, .some exceptBlock, .opt elseBlock, .opt finallyBlock]
        (node .tryStmt [(2, .body), (3, .handlers), (4, .orElse), (5, .finalBody)]),
      alt ["try", .forced ":", block, .some exceptStarBlock, .opt elseBlock, .opt finallyBlock]
        (node .tryStarStmt [(2, .body), (3, .handlers), (4, .orElse), (5, .finalBody)])]
  | .exceptBlock => once [
      diagnose .exceptStmtIndent,
      alt ["except", expression, .opt (seq ["as", name] 1), ":", block]
        (node .exceptHandler [(1, .handled), (4, .body)]),
      alt ["except", ":", block] (node .exceptHandler [(2, .body)]),
      diagnose .exceptStmt]
  | .exceptStarBlock => once [
      diagnose .exceptStarStmtIndent,
      alt ["except", "*", expression, .opt (seq ["as", name] 1), ":", block]
        (node .exceptHandler [(2, .handled), (5, .body)]),
      diagnose .exceptStmt]
  | .finallyBlock => once [
      diagnose .finallyStmt,
      alt ["finally", .forced ":", block] (pick 2)]
  | .matchStmt => once [
      alt [.soft "match", subjectExpr, ":", newline, .kind .indent, .some caseBlock,
          .kind .dedent]
        (node .matchStmt [(1, .subject), (5, .cases)]),
      diagnose .matchStmt]
  | .subjectExpr => once [
      alt [starNamedExpression, ",", .opt starNamedExpressions]
        (node .tuple [(0, .elts), (2, .elts)]),
      just namedExpression]
  | .caseBlock => once [
      diagnose .caseBlock,
      alt [.soft "case", patterns, .opt caseGuard, ":", block]
        (bare .matchCase [(1, .pattern), (2, .guard), (4, .body)])]
  | .caseGuard => once [alt ["if", namedExpression] (pick 1)]

end Grader.Source.Grammar
