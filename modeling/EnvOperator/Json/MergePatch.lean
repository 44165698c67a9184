import EnvOperator.Json.Basic

/-! # Merge patches

A merge patch (RFC 7386) that is an object changes the members it names: a null
removes the member, anything else is merged into it. Any other patch replaces
the whole document.
-/
namespace EnvOperator
namespace Json

def remove (name : String) (ms : Members) : Members := ms.filter (fun m => m.1 ≠ name)

mutual
def mergePatch (target : Json) : Json → Json
  | object patch =>
    match target with
    | object ms => object (mergeMembers ms patch)
    | _ => object (mergeMembers [] patch)
  | patch => patch
def mergeMembers (ms : Members) : Members → Members
  | [] => ms
  | (name, null) :: rest => mergeMembers (remove name ms) rest
  | (name, value) :: rest =>
    mergeMembers (assign name (mergePatch ((lookup name ms).getD null) value) ms) rest
end

end Json
end EnvOperator
