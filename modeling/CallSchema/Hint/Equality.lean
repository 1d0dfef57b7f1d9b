import CallSchema.Hint

/-!
Equality of hints. Unions and literals are equal whatever their order, and a hint that holds an
unhashable constant cannot be compared as a set.
-/

namespace CallSchema.Hint

mutual

/-- The kind of a constant in a hint that cannot be a member of a set. -/
def unhashableKind? : Hint → Option String
  | generic _ args | applied _ args | union args | alternatives args | intersection args =>
    unhashableKindAll? args
  | literal values => Value.unhashableKind? values
  | annotated h metadata => (unhashableKind? h).or (Value.unhashableKind? metadata)
  | required h | notRequired h | unpack h | starred h => unhashableKind? h
  | callable none result => unhashableKind? result
  | callable (some params) result => (unhashableKindAll? params).or (unhashableKind? result)
  | constant v => Value.unhashableKind? [v]
  | listing _ => some "list"
  | tuple items => unhashableKindAll? items
  | _ => none

def unhashableKindAll? : List Hint → Option String
  | [] => none
  | h :: hs => (unhashableKind? h).or (unhashableKindAll? hs)

end

def isHashable (h : Hint) : Bool := (unhashableKind? h).isNone

/-- Whether two lists of constants hold the same ones. -/
def sameValues (xs ys : List Value) : Bool :=
  xs.all (fun x => ys.any (Value.same x)) && ys.all (fun y => xs.any (Value.same · y))

mutual

def eqv : Hint → Hint → Bool
  | null, null => true
  | ellipsis, ellipsis => true
  | cls c, cls d => c == d
  | generic origin args, generic origin' args' => origin == origin' && eqvAll args args'
  | form home name, form home' name' => home == home' && name == name'
  | applied name args, applied name' args' => name == name' && eqvAll args args'
  | union args, union args' | union args, alternatives args' | alternatives args, union args'
  | alternatives args, alternatives args' => subset args args' && args'.all fun k => meets args k
  | literal xs, literal ys => sameValues xs ys
  | annotated h xs, annotated h' ys => eqv h h' && Value.eqvAll xs ys
  | required h, required h' => eqv h h'
  | notRequired h, notRequired h' => eqv h h'
  | unpack h, unpack h' => eqv h h'
  | starred h, starred h' => eqv h h'
  | intersection args, intersection args' => eqvAll args args'
  | callable none result, callable none result' => eqv result result'
  | callable (some params) result, callable (some params') result' =>
    eqvAll params params' && eqv result result'
  | typeVar identity _, typeVar identity' _ => identity == identity'
  | newType identity _ _ _, newType identity' _ _ _ => identity == identity'
  | text s, text s' => s == s'
  | forward s home, forward s' home' => s == s' && home == home'
  | constant v, constant w => v.eqv w
  | listing items, listing items' | tuple items, tuple items' => eqvAll items items'
  | package path, package path' => path == path'
  | object kind s, object kind' s' => kind == kind' && s == s'
  | _, _ => false

def eqvAll : List Hint → List Hint → Bool
  | [], [] => true
  | h :: hs, k :: ks => eqv h k && eqvAll hs ks
  | _, _ => false

/-- Whether every hint of a list is equal to one of another. -/
def subset : List Hint → List Hint → Bool
  | [], _ => true
  | h :: hs, ks => ks.any (eqv h) && subset hs ks

/-- Whether some hint of a list is equal to another one. -/
def meets : List Hint → Hint → Bool
  | [], _ => false
  | h :: hs, k => eqv h k || meets hs k

end

mutual

/-- Whether comparing two hints has to put an unhashable constant into a set: two literals, or two
unions, that stand in the same place. -/
def comparisonFault? : Hint → Hint → Option String
  | literal xs, literal ys => (Value.unhashableKind? xs).or (Value.unhashableKind? ys)
  | alternatives args, alternatives args' =>
    (unhashableKindAll? args).or (unhashableKindAll? args')
  | union args, union args' | union args, alternatives args' | alternatives args, union args' =>
    if args.all isHashable && args'.all isHashable then none else memberFault? args args'
  | generic origin args, generic origin' args' =>
    if origin == origin' then comparisonFaultAll? args args' else none
  | applied name args, applied name' args' =>
    if name == name' then comparisonFaultAll? args args' else none
  | annotated h _, annotated h' _ | required h, required h' | notRequired h, notRequired h'
  | unpack h, unpack h' | starred h, starred h' => comparisonFault? h h'
  | intersection args, intersection args' => comparisonFaultAll? args args'
  | callable none result, callable none result' => comparisonFault? result result'
  | callable (some params) result, callable (some params') result' =>
    callableFault? params params' result' fun k => comparisonFault? result k
  | listing items, listing items' =>
    if items.length = items'.length then comparisonFaultAll? items items' else none
  | tuple items, tuple items' => comparisonFaultAll? items items'
  | _, _ => none
termination_by structural h => h

/-- Arguments are compared one after another, up to the first that differ. -/
def comparisonFaultAll? : List Hint → List Hint → Option String
  | h :: hs, k :: ks =>
    match comparisonFault? h k with
    | some kind => some kind
    | none => if eqv h k then comparisonFaultAll? hs ks else none
  | _, _ => none
termination_by structural hs => hs

/-- Parameter types are compared like arguments of which the result is the last one. `onResult`
compares that of the first function. -/
def callableFault? : List Hint → List Hint → Hint → (onResult : Hint → Option String) →
    Option String
  | [], ks, result', onResult => onResult (ks.headD result')
  | h :: _, [], result', _ => comparisonFault? h result'
  | h :: hs, k :: ks, result', onResult =>
    match comparisonFault? h k with
    | some kind => some kind
    | none => if eqv h k then callableFault? hs ks result' onResult else none
termination_by structural hs => hs

/-- Members of a union that is no set are looked up in the other one, up to the first that is
missing there. -/
def memberFault? : List Hint → List Hint → Option String
  | [], _ => none
  | h :: hs, ks =>
    let lookup := ks.foldr (fun k rest =>
      (comparisonFault? h k).or (if eqv h k then none else rest)) none
    match lookup with
    | some kind => some kind
    | none => if ks.any (eqv h) then memberFault? hs ks else none
termination_by structural hs => hs

end

def unhashable {α : Type} (kind : String) : Except Failure α :=
  .error (raised "TypeError" ("unhashable type: '" ++ kind ++ "'"))

/-- Compares hints; fails where a set would have to hold an unhashable constant. -/
def compare (a b : Hint) : Except Failure Bool :=
  match comparisonFault? a b with
  | some kind => unhashable kind
  | none => .ok (eqv a b)

/-- Keeps the first of equal hints. -/
def dedup : List Hint → List Hint
  | [] => []
  | h :: hs => h :: (dedup hs).filter fun k => !eqv h k

/-- Whether looking a hint up among others fails, before an equal one is found. -/
def lookupFault? (h : Hint) : List Hint → Option String
  | [] => none
  | k :: ks => (comparisonFault? k h).or (if eqv k h then none else lookupFault? h ks)

/-- Whether leaving out the repeats of hints fails, by looking each up among those kept before. -/
def repeatFault? : (kept : List Hint) → List Hint → Option String
  | _, [] => none
  | kept, h :: hs =>
    (lookupFault? h kept).or
      (repeatFault? (if kept.any (eqv · h) then kept else kept ++ [h]) hs)

/-- Keeps the first of equal hints. If not all of them can be members of a set, they are compared
with one another, which fails where that takes a set of unhashable constants. -/
def dedupChecked (hs : List Hint) : Except Failure (List Hint) :=
  match if hs.all isHashable then none else repeatFault? [] hs with
  | some kind => unhashable kind
  | none => .ok (dedup hs)

end CallSchema.Hint
