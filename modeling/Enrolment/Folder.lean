import Enrolment.Text.Split

/-!
A folder of files, and the paths into it. Other folders in it are there by the files that they hold.
-/

namespace Enrolment

inductive FileProblem where
  | missing
  | notFolder
  | isFolder
  | notAllowed
  | notText
  deriving DecidableEq, Repr

def FileProblem.message : FileProblem → String
  | missing => "No such file or directory (os error 2)"
  | notFolder => "Not a directory (os error 20)"
  | isFolder => "Is a directory (os error 21)"
  | notAllowed => "Permission denied (os error 13)"
  | notText => "stream did not contain valid UTF-8"

def textOf (content : ByteArray) : Except FileProblem String :=
  match String.fromUTF8? content with
  | some text => .ok text
  | none => .error .notText

structure Path where
  names : List (List Char)
  toFolder : Bool
  deriving DecidableEq, Repr

namespace Path

/-- The names on a path, a step back undoing the last one. No path leads out of the folder. -/
def walk (done : List (List Char)) : List (List Char) → Option (List (List Char))
  | [] => some done
  | name :: names =>
      if name = [] || name = ['.'] then walk done names
      else if name = ['.', '.'] then if done = [] then none else walk done.dropLast names
      else walk (done ++ [name]) names

def parse? (text : String) : Option Path :=
  match Text.splitOn '/' text.toList with
  | [[]] | [] :: _ => none
  | parts =>
      let last := parts.getLast?.getD []
      (walk [] parts).map fun names => ⟨names, last = [] || last = ['.'] || last = ['.', '.']⟩

end Path

/-- The files of a folder, by the names on the paths to them. -/
structure Folder where
  files : List (List (List Char) × ByteArray)

namespace Folder

def holdsFolder (folder : Folder) (names : List (List Char)) : Bool :=
  names = [] || folder.files.any fun (file, _) => names.isPrefixOf file && names ≠ file

def crossesFile (folder : Folder) (names : List (List Char)) : Bool :=
  folder.files.any fun (file, _) => file.isPrefixOf names && names ≠ file

def read (folder : Folder) (path : String) : Except FileProblem ByteArray :=
  match Path.parse? path with
  | none => .error .missing
  | some ⟨names, toFolder⟩ =>
      match folder.files.lookup names with
      | some content => if toFolder then .error .notFolder else .ok content
      | none =>
          if folder.holdsFolder names then .error .isFolder
          else if folder.crossesFile names then .error .notFolder
          else .error .missing

def readText (folder : Folder) (path : String) : Except FileProblem String :=
  (folder.read path).bind textOf

def obstacle? (folder : Folder) (path : String) : Option FileProblem :=
  match Path.parse? path with
  | none => some .missing
  | some ⟨names, toFolder⟩ =>
      if (folder.files.lookup names).isSome then if toFolder then some .notFolder else none
      else if folder.holdsFolder names then some .isFolder
      else if folder.crossesFile names then some .notFolder
      else if !folder.holdsFolder names.dropLast then some .missing
      else if toFolder then some .isFolder
      else none

def put (folder : Folder) (path : String) (content : ByteArray) : Folder :=
  match Path.parse? path with
  | none => folder
  | some ⟨names, _⟩ => ⟨(names, content) :: folder.files.filter (·.1 ≠ names)⟩

def ofFiles (files : List (String × ByteArray)) : Folder :=
  files.foldl (fun folder (path, content) => folder.put path content) ⟨[]⟩

end Folder
end Enrolment
