import Proofbook.Formula.Basic
import Proofbook.Json.Basic

namespace Proofbook.Formula

def typeMember (kind : Kind) : String × Json := ("type", .string kind.name)

mutual

def encode : Formula → Json
  | quantified kind name none body =>
    .object [("body", body.encode), ("quantifier_type", .string kind.name),
      typeMember .quantifier, ("variable", .string name)]
  | quantified kind name (some domain) body =>
    .object [("body", body.encode), ("domain", domain.encode),
      ("quantifier_type", .string kind.name), typeMember .quantifier, ("variable", .string name)]
  | connective kind none right =>
    .object [("connective_type", .string kind.name), ("right", right.encode),
      typeMember .connective]
  | connective kind (some left) right =>
    .object [("connective_type", .string kind.name), ("left", left.encode),
      ("right", right.encode), typeMember .connective]
  | predicate name args =>
    .object [("args", .array (encodeList args)), ("name", .string name), typeMember .predicate]
  | var name bound =>
    .object [("is_bound", .bool bound), ("name", .string name), typeMember .var]
  | proposition name none => .object [("name", .string name), typeMember .proposition]
  | proposition name (some truth) =>
    .object [("name", .string name), ("truth", .bool truth), typeMember .proposition]
  | equation left right =>
    .object [("left", left.encode), ("right", right.encode), typeMember .equation]
  | inequality kind left right =>
    .object [("inequality_type", .string kind.name), ("left", left.encode),
      ("right", right.encode), typeMember .inequality]
  | function name args =>
    .object [("args", .array (encodeList args)), ("name", .string name), typeMember .function]
  | premise => .object [typeMember .premise]
  | conclusion => .object [typeMember .conclusion]
  | inference rule premises =>
    .object [("premises", .array (encodeList premises)), ("rule", .string rule.name),
      typeMember .inference]
  | number value => .object [typeMember .number, ("value", .ofBinary64 value)]
  | text value => .object [typeMember .text, ("value", .string value)]

def encodeList : List Formula → List Json
  | [] => []
  | formula :: formulas => formula.encode :: encodeList formulas

end

end Proofbook.Formula
