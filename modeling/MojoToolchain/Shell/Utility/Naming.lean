import MojoToolchain.Shell.Utility.Basic

/-!
# Paths as texts

Utilities that cut paths into their parts, and that write to which places they lead.
-/

namespace MojoToolchain.Shell

open Host (Disk Fault Place)

/-! ### Parts of paths -/

/-- A path without the slashes at its end. -/
def withoutSlashes (path : Bytes) : Bytes := (path.reverse.dropWhile (· == '/')).reverse

/-- The last name of a path. -/
def lastName (path : Bytes) : Bytes := ((withoutSlashes path).splitOn '/').getLastD []

/-- The path of a name in a directory. -/
def inside (dir name : Bytes) : Bytes :=
  if dir.getLast? == some '/' then dir ++ name else dir ++ '/' :: name

/-- A path without its last name. -/
def dirOf (path : Bytes) : Bytes :=
  let dir := ((withoutSlashes path).reverse.dropWhile (· != '/')).reverse
  if dir.isEmpty then if path.head? == some '/' then ['/'] else ['.']
  else if (withoutSlashes dir).isEmpty then ['/']
  else withoutSlashes dir

/-- The last name of a path without an ending. -/
def nameWithout (ending path : Bytes) : Bytes :=
  let name := lastName path
  let name := if name.isEmpty && path.head? == some '/' then ['/'] else name
  if ending.isSuffixOf name && ending != name then name.take (name.length - ending.length)
  else name

/-- Writes the last names of paths, without an ending. -/
def basename : Utility :=
  let forms : OptionForms :=
    { flags := "az", valued := "s", inFront := true,
      names := [("multiple", 'a'), ("suffix", 's'), ("zero", 'z')] }
  withOptions 1 forms fun call s =>
    let written (names : List Bytes) : State := (emitRows call.endMark s names).withStatus 0
    match call.operands, call.has 'a' || call.has 's' with
    | [], _ => misused 1 "missing operand" s
    | paths, true => written (paths.map (nameWithout ((call.value? 's').getD [])))
    | [path], false => written [nameWithout [] path]
    | [path, ending], false => written [nameWithout ending path]
    | _ :: _ :: extra :: _, false => misused 1 ("extra operand " ++ Quoting.plain extra) s

/-- Writes paths without their last names. -/
def dirname : Utility :=
  let forms : OptionForms :=
    { flags := "z", valued := "", names := [("zero", 'z')], inFront := true }
  withOptions 1 forms fun call s =>
    if call.operands.isEmpty then misused 1 "missing operand" s
    else (emitRows call.endMark s (call.operands.map dirOf)).withStatus 0

/-! ### Places -/

/-- A place as a path. -/
def pathTo (place : Place) : Bytes :=
  '/' :: ['/'].intercalate (place.map fun name => ofText (String.ofList name))

/-- How much of what a path passes through has to be there. -/
inductive Demand where
  /-- All of it. -/
  | all
  /-- All but the last name. -/
  | allButLast
  /-- Nothing. -/
  | nothing
  deriving DecidableEq, Repr

/-- The place that a path names, whatever is there. -/
def placeNamed (d : Disk) (path : Bytes) : Place :=
  let path := pathOf path
  (path.chars.splitOn '/').foldl (fun place piece =>
    if Path.isIdle piece then place
    else if piece == ['.', '.'] then place.dropLast
    else place ++ [piece]) (d.startOf path)

/-- The place to which a path leads. -/
def placeOf (d : Disk) (demand : Demand) (path : Bytes) : Except Fault Place :=
  match demand with
  | .all => d.locate (pathOf path)
  | .allButLast => do
    let bare := withoutSlashes path
    let place ← d.locateNew (pathOf (if bare.isEmpty then path else bare))
    match d.find? place, decide (bare.length < path.length) with
    | some (.file _ _), true => .error .notDirectory
    | _, _ => .ok place
  | .nothing => if path.isEmpty then .error .notFound else .ok (placeNamed d path)

/-- The way from one place to another. -/
def wayFrom (start place : Place) : Bytes :=
  let common := ((start.zip place).takeWhile fun (a, b) => a == b).length
  let up := List.replicate (start.length - common) ['.', '.']
  let down := (place.drop common).map fun name => ofText (String.ofList name)
  if (up ++ down).isEmpty then ['.'] else ['/'].intercalate (up ++ down)

/-- Writes the places to which paths lead, or the ways to them from a place. -/
def realpath : Utility :=
  let forms : OptionForms :=
    { flags := "emsqzLP", valued := "αβ",
      names := [("canonicalize-existing", 'e'), ("canonicalize-missing", 'm'), ("strip", 's'),
        ("no-symlinks", 's'), ("quiet", 'q'), ("zero", 'z'), ("logical", 'L'), ("physical", 'P'),
        ("relative-to", 'α'), ("relative-base", 'β')] }
  withOptions 1 forms fun call s =>
    let demand : Demand :=
      match call.last? "em" with
      | some ('e', _) => .all
      | some _ => .nothing
      | none => .allButLast
    let place (path : Bytes) : Except (Bytes × Fault) Place :=
      (placeOf s.disk demand path).mapError fun fault => (path, fault)
    let wording (path : Bytes) (fault : Fault) : String :=
      Quoting.asNeeded path ++ ": " ++ reasonOf fault
    if call.operands.isEmpty then misused 1 "missing operand" s
    else
      match (call.value? 'α').mapM place, (call.value? 'β').mapM place with
      | .error (path, fault), _ => s.report 1 (wording path fault)
      | _, .error (path, fault) => s.report 1 (wording path fault)
      | .ok start, .ok base =>
        call.operands.foldl (fun s path =>
          match placeOf s.disk demand path with
          | .error fault =>
            if call.has 'q' then s.withStatus 1 else s.report 1 (wording path fault)
          | .ok place =>
            let near := base.all fun base =>
              base.isPrefixOf place && start.all (base.isPrefixOf ·)
            let row :=
              match start <|> base with
              | some start => if near then wayFrom start place else pathTo place
              | none => pathTo place
            emitRows call.endMark s [row]) (s.withStatus 0)

/-- Writes the places to which paths lead; no file stands for another path. -/
def readlink : Utility :=
  let forms : OptionForms :=
    { flags := "femnqsvz", valued := "",
      names := [("canonicalize", 'f'), ("canonicalize-existing", 'e'),
        ("canonicalize-missing", 'm'), ("no-newline", 'n'), ("quiet", 'q'), ("silent", 's'),
        ("verbose", 'v'), ("zero", 'z')] }
  withOptions 1 forms fun call s =>
    let alone := call.operands.length == 1
    let s :=
      if call.has 'n' && !alone && !call.operands.isEmpty then
        s.report 0 "ignoring --no-newline with multiple arguments"
      else s
    let mark := if call.has 'n' && alone then [] else [call.endMark]
    let failed (s : State) (path : Bytes) (reason : String) : State :=
      if (call.last? "qsv").any fun (c, _) => c == 'v' then
        s.report 1 (Quoting.asNeeded path ++ ": " ++ reason)
      else s.withStatus 1
    let demand : Option Demand :=
      match call.last? "fem" with
      | some ('f', _) => some .allButLast
      | some ('e', _) => some .all
      | some _ => some .nothing
      | none => none
    if call.operands.isEmpty then misused 1 "missing operand" s
    else
      call.operands.foldl (fun s path =>
        match demand with
        | some demand =>
          match placeOf s.disk demand path with
          | .ok place => s.emit 1 (pathTo place ++ mark)
          | .error fault => failed s path (reasonOf fault)
        | none =>
          match s.disk.locate (pathOf path) with
          | .ok _ => failed s path "Invalid argument"
          | .error fault => failed s path (reasonOf fault)) (s.withStatus 0)

/-- The utilities that deal with paths as texts. -/
def namingUtilities : Utilities :=
  [("basename", basename), ("dirname", dirname), ("realpath", realpath), ("readlink", readlink)]

end MojoToolchain.Shell
