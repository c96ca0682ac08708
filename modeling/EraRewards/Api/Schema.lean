import EraRewards.Http.Field

/-!
# Schemas of request bodies

A body is an object with fixed fields.  All faults of a body are reported together: those of the
fields in the order of the schema, then the members with unknown names in the order of the body.
-/

namespace EraRewards
namespace Api

open Http

/-- A report of traded volume. -/
structure VolumeReport where
  /-- Who traded. -/
  account : String
  /-- How much. -/
  volume : Int
  /-- When, in ticks. -/
  at_ : Int

/-- A request to pay out. -/
structure ClaimRequest where
  /-- Who claims. -/
  account : String
  /-- When, in ticks; now if absent. -/
  at_ : Option Int

/-- Reading of one field, or the fault that it has. -/
def field {α : Type} (body : Value) (name : String) (read : Value → Except FaultKind α) :
    Except FieldFault α :=
  let location := [Location.name "body", .name name]
  match body.member? name with
  | none => .error ⟨.missing, location, body⟩
  | some value => (read value).mapError fun kind => ⟨kind, location, value⟩

/-- Faults of one reading. -/
def faultsOf {α : Type} : Except FieldFault α → List FieldFault
  | .error fault => [fault]
  | .ok _ => []

/-- Faults of the members with other names than the known ones. -/
def unknownMembers (known : List String) (members : List (String × Value)) : List FieldFault :=
  (members.filter fun member => !known.contains member.1).map fun member =>
    ⟨.unknownName, [.name "body", .name member.1], member.2⟩

/-- The one fault of a body that is no object, or one with names that cannot be encoded. -/
def notAnObject : Value → List FieldFault
  | .brokenObject names _ =>
    let broken := names.filter fun name => (Letter.text? name).isNone
    [⟨.unencodable, [.name "body"], .broken (broken.headD [])⟩]
  | body => [⟨.notAnObject, [.name "body"], body⟩]

/-- A volume report in a body, or all faults of the body. -/
def VolumeReport.ofBody (body : Value) : Except (List FieldFault) VolumeReport :=
  match body with
  | .object members =>
    let account := field body "account" Field.nonemptyText
    let volume := field body "volume" (Field.natural (some maxAmount))
    let at_ := field body "at" (Field.natural none)
    match account, volume, at_, unknownMembers ["account", "volume", "at"] members with
    | .ok account, .ok volume, .ok at_, [] => .ok ⟨account, volume, at_⟩
    | account, volume, at_, unknown =>
      .error (faultsOf account ++ faultsOf volume ++ faultsOf at_ ++ unknown)
  | body => .error (notAnObject body)

/-- An optional tick. -/
def optionalTick : Value → Except FaultKind (Option Int)
  | .null => .ok none
  | value => (Field.natural none value).map some

/-- A request to pay out in a body, or all faults of the body. -/
def ClaimRequest.ofBody (body : Value) : Except (List FieldFault) ClaimRequest :=
  match body with
  | .object members =>
    let account := field body "account" Field.nonemptyText
    let at_ : Except FieldFault (Option Int) := match body.member? "at" with
      | none => .ok none
      | some _ => field body "at" optionalTick
    match account, at_, unknownMembers ["account", "at"] members with
    | .ok account, .ok at_, [] => .ok ⟨account, at_⟩
    | account, at_, unknown => .error (faultsOf account ++ faultsOf at_ ++ unknown)
  | body => .error (notAnObject body)

/-- Number of events that a query asks for. -/
def limitOfQuery (query : Option String) (fallback : Int) : Except (List FieldFault) Int :=
  match query with
  | none => .ok fallback
  | some s =>
    (Field.integerOfText s).mapError fun kind =>
      [⟨kind, [.name "query", .name "limit"], .text s⟩]

end Api
end EraRewards
