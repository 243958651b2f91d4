import PagePress.Schema.Violation

/-!
# The rules of schemas

* `Schema.Kind.covers` tells whether a value is of a kind;
* `Schema.rule` gives the rule of a schema, in terms of a rule for each target of a reference;
  the keywords of a schema are asked one after another.
-/

namespace PagePress

namespace Schema

/-- Whether a value is of a kind; a whole number is an integer, however it is written. -/
def Kind.covers : Kind → Json → Bool
  | .array, .arr _ => true
  | .boolean, .bool _ => true
  | .integer, j => j.quotient?.any Json.Quotient.isWhole
  | .null, .null => true
  | .number, j => j.quotient?.isSome
  | .object, .obj _ => true
  | .string, .str _ => true
  | _, _ => false

/-! ## Rules of single values -/

/-- A number that is compared with a limit. -/
def limitRule (passes : Json.Quotient → Json.Quotient → Bool) (limit : Json) (words : String) :
    Rule :=
  .test
    (fun j => match j.quotient?, limit.quotient? with
      | some x, some y => passes x y
      | _, _ => true)
    (about (words ++ " of " ++ limit.compact))

/-- A number that is a multiple. -/
def multipleRule (divisor : Json) : Rule :=
  .test
    (fun j => match j.quotient?, divisor.quotient? with
      | some x, some y => x.isMultiple y
      | _, _ => true)
    (about ("is not a multiple of " ++ divisor.decimalText))

/-- The length of a text. -/
def lengthRule (passes : Nat → Bool) (words : String) : Rule :=
  .test (fun j => match j with | .str s => passes s.length | _ => true) (about words)

/-- The number of items of a list. -/
def sizeRule (passes : Nat → Bool) (words : String) : Rule :=
  .test (fun j => match j with | .arr xs => passes xs.length | _ => true) (about words)

/-- The number of properties of an object. -/
def fieldsRule (passes : Nat → Bool) (words : String) : Rule :=
  .test (fun j => match j with | .obj fs => passes fs.length | _ => true) (about words)

/-- A text that matches an expression. -/
def patternRule (p : Pattern) : Rule :=
  .test (fun j => match j with | .str s => p.regex.found s | _ => true)
    (about ("does not match \"" ++ p.text ++ "\""))

/-- Properties that have to be there. -/
def requiredRule (names : List String) : Rule := fun p j =>
  match j with
  | .obj fs =>
    (names.filter fun k => (Entries.get? k fs).isNone).map fun k => ⟨p, requiredMessage k⟩
  | _ => []

/-! ## Rules of parts -/

/-- Items of a list from a number on. -/
def itemsFrom (r : Rule) (p : Place) : Nat → List Json → List Violation
  | _, [] => []
  | i, x :: xs => r (toString i :: p) x ++ itemsFrom r p (i + 1) xs

/-- The first items of a list, each by a rule of its own. -/
def firstItems (p : Place) : Nat → List Rule → List Json → List Violation
  | i, r :: rs, x :: xs => r (toString i :: p) x ++ firstItems p (i + 1) rs xs
  | _, _, _ => []

/-- A property by the rule of its name. -/
def namedField (named : List (String × Rule)) (p : Place) (fs : List (String × Json)) :
    List Violation :=
  named.flatMap fun (n : String × Rule) =>
    match Entries.get? n.1 fs with
    | some v => n.2 (n.1 :: p) v
    | none => []

/-- A property by the rules of the patterns that its name matches. -/
def matchedField (matched : List (Pattern × Rule)) (p : Place) (k : String) (v : Json) :
    List Violation :=
  (matched.filter fun m => m.1.regex.found k).flatMap fun (m : Pattern × Rule) => m.2 (k :: p) v

/-- Whether a name is given or matched. -/
def isExpected (named : List (String × Rule)) (matched : List (Pattern × Rule)) (k : String) :
    Bool :=
  (Entries.get? k named).isSome || matched.any fun m => m.1.regex.found k

/-- A property by the rule of its name and of the patterns that it matches. -/
def expectedField (named : List (String × Rule)) (matched : List (Pattern × Rule)) (p : Place)
    (k : String) (v : Json) : List Violation :=
  (match Entries.get? k named with
    | some r => r (k :: p) v
    | none => []) ++ matchedField matched p k v

/-- The properties of an object, with a rule for those that nothing else covers. -/
def othersRule (named : List (String × Rule)) (matched : List (Pattern × Rule)) (other : Rule) :
    Rule := fun p j =>
  match j with
  | .obj fs => fs.flatMap fun (f : String × Json) =>
      if isExpected named matched f.1 then expectedField named matched p f.1 f.2
      else other (f.1 :: p) f.2
  | _ => []

/-- The properties of an object, none of which is not covered. -/
def noOthersRule (named : List (String × Rule)) (matched : List (Pattern × Rule)) : Rule :=
  fun p j =>
    match j with
    | .obj fs =>
      let unexpected := (fs.map (·.1)).filter fun k => !isExpected named matched k
      (fs.flatMap fun (f : String × Json) => expectedField named matched p f.1 f.2)
        ++ if unexpected.isEmpty then [] else [⟨p, unexpectedMessage unexpected⟩]
    | _ => []

/-- An object without properties. -/
def noPropertiesRule : Rule := fun p j =>
  match j with
  | .obj ((_, v) :: _) => [⟨p, "False schema does not allow " ++ v.compact⟩]
  | _ => []

/-- A value that fits at least one rule. -/
def anyRule (rs : List Rule) : Rule :=
  .test (fun j => rs.any fun r => r.fits j)
    (about "is not valid under any of the schemas listed in the 'anyOf' keyword")

/-- A value that fits exactly one rule. -/
def oneRule (rs : List Rule) : Rule := fun p j =>
  match (rs.filter fun r => r.fits j).length with
  | 0 => [⟨p, about "is not valid under any of the schemas listed in the 'oneOf' keyword" j⟩]
  | 1 => []
  | _ => [⟨p, about "is valid under more than one of the schemas listed in the 'oneOf' keyword" j⟩]

/-- A list of which enough items, and not too many, fit a rule. -/
def containsRule (r : Rule) (least : Nat) (most : Option Nat) : Rule :=
  .test
    (fun j => match j with
      | .arr xs =>
        let n := (xs.filter r.fits).length
        least ≤ n && most.all (n ≤ ·)
      | _ => true)
    (fun j => "None of " ++ j.compact ++ " are valid under the given schema")

/-! ## Rules of schemas -/

mutual

/-- The rule of a schema. -/
def rule (target : String → Rule) : Schema → Rule
  | .always true => fun _ _ => []
  | .always false => fun p j => [⟨p, "False schema does not allow " ++ j.compact⟩]
  | .all ks => fun p j => (keywordRules target ks).flatMap fun r => r p j

/-- The rules of keywords. -/
def keywordRules (target : String → Rule) : List Keyword → List Rule
  | [] => []
  | k :: ks => keywordRule target k :: keywordRules target ks

/-- The rule of a keyword. -/
def keywordRule (target : String → Rule) : Keyword → Rule
  | .ref t => target t
  | .type ks => .test (fun j => ks.any fun k => k.covers j) (about (typeMessage ks))
  | .enum vs => .test (fun j => vs.any fun v => j.same v)
      (about ("is not one of " ++ (Json.arr vs).compact))
  | .const v => .test (fun j => j.same v) (fun _ => v.compact ++ " was expected")
  | .minimum n => limitRule (fun x y => y.le x) n "is less than the minimum"
  | .maximum n => limitRule (fun x y => x.le y) n "is greater than the maximum"
  | .exclusiveMinimum n =>
    limitRule (fun x y => y.lt x) n "is less than or equal to the minimum"
  | .exclusiveMaximum n =>
    limitRule (fun x y => x.lt y) n "is greater than or equal to the maximum"
  | .multipleOf n => multipleRule n
  | .minLength n =>
    lengthRule (n ≤ ·) ("is shorter than " ++ counted n "character" "characters")
  | .maxLength n =>
    lengthRule (· ≤ n) ("is longer than " ++ counted n "character" "characters")
  | .pattern p => patternRule p
  | .minItems n => sizeRule (n ≤ ·) ("has less than " ++ counted n "item" "items")
  | .maxItems n => sizeRule (· ≤ n) ("has more than " ++ counted n "item" "items")
  | .uniqueItems => .test
      (fun j => match j with | .arr xs => Json.allDifferent xs | _ => true)
      (about "has non-unique elements")
  | .items start s =>
    let r := rule target s
    fun p j => match j with
      | .arr xs => itemsFrom r p start (xs.drop start)
      | _ => []
  | .firstItems ss =>
    let rs := rules target ss
    fun p j => match j with
      | .arr xs => firstItems p 0 rs xs
      | _ => []
  | .contains s least most => containsRule (rule target s) least most
  | .minProperties n =>
    fieldsRule (n ≤ ·) ("has less than " ++ counted n "property" "properties")
  | .maxProperties n =>
    fieldsRule (· ≤ n) ("has more than " ++ counted n "property" "properties")
  | .required names => requiredRule names
  | .properties named =>
    let rs := namedRules target named
    fun p j => match j with
      | .obj fs => namedField rs p fs
      | _ => []
  | .patternProperties matched =>
    let rs := matchedRules target matched
    fun p j => match j with
      | .obj fs => rs.flatMap fun (m : Pattern × Rule) =>
          fs.flatMap fun (f : String × Json) => matchedField [m] p f.1 f.2
      | _ => []
  | .others named matched s =>
    othersRule (namedRules target named) (matchedRules target matched) (rule target s)
  | .noOthers named matched => noOthersRule (namedRules target named) (matchedRules target matched)
  | .noProperties => noPropertiesRule
  | .propertyNames s =>
    let r := rule target s
    fun p j => match j with
      | .obj fs => fs.flatMap fun (f : String × Json) =>
          (r [] (.str f.1)).map fun v => ⟨p, v.message⟩
      | _ => []
  | .dependentRequired names => fun p j =>
      match j with
      | .obj fs => names.flatMap fun (n : String × List String) =>
          if (Entries.get? n.1 fs).isSome then requiredRule n.2 p j else []
      | _ => []
  | .dependentSchemas named =>
    let rs := namedRules target named
    fun p j => match j with
      | .obj fs => rs.flatMap fun (n : String × Rule) =>
          if (Entries.get? n.1 fs).isSome then n.2 p j else []
      | _ => []
  | .allOf ss =>
    let rs := rules target ss
    fun p j => rs.flatMap fun r => r p j
  | .anyOf ss => anyRule (rules target ss)
  | .oneOf ss => oneRule (rules target ss)
  | .not source s =>
    let r := rule target s
    .test (fun j => !r.fits j) (fun j => source.compact ++ " is not allowed for " ++ j.compact)
  | .cond test whenFit otherwise =>
    let t := rule target test
    let yes := rule target whenFit
    let no := rule target otherwise
    fun p j => if t.fits j then yes p j else no p j

/-- The rules of schemas. -/
def rules (target : String → Rule) : List Schema → List Rule
  | [] => []
  | s :: ss => rule target s :: rules target ss

/-- The rules of named schemas. -/
def namedRules (target : String → Rule) : List (String × Schema) → List (String × Rule)
  | [] => []
  | (k, s) :: rest => (k, rule target s) :: namedRules target rest

/-- The rules of schemas with patterns. -/
def matchedRules (target : String → Rule) : List (Pattern × Schema) → List (Pattern × Rule)
  | [] => []
  | (k, s) :: rest => (k, rule target s) :: matchedRules target rest

end

/-- The rule of a schema without references. -/
def plainRule (s : Schema) : Rule := rule (fun _ _ _ => []) s

end Schema

end PagePress
