import DataGrid.Predicate.Method

/-!
Scripts of calls on a group: what a callback does with the predicate scope that it is given. A call that
fails ends the script, and what the calls before it added stays.
-/

namespace DataGrid

inductive GroupStep where
  | call (method : GroupMethod) (arguments : List Argument)
  | nested (junction : Value) (steps : List GroupStep)
  deriving Repr

mutual

def GroupStep.run (adapter : Sql.Adapter) (id : GroupId) : GroupStep → Action Store Unit
  | .call method arguments => fun store =>
    match store.call adapter id method arguments with
    | .ok grown => (.ok (), grown)
    | .error failure => (.error failure, store)
  | .nested junction steps => fun store =>
    match store.nestedNamed id junction with
    | .ok (inner, grown) => GroupStep.runAll adapter inner steps grown
    | .error failure => (.error failure, store)

def GroupStep.runAll (adapter : Sql.Adapter) (id : GroupId) : List GroupStep → Action Store Unit
  | [] => fun store => (.ok (), store)
  | step :: rest => fun store =>
    match step.run adapter id store with
    | (.ok (), grown) => GroupStep.runAll adapter id rest grown
    | (.error failure, grown) => (.error failure, grown)

end

end DataGrid
