import PortMap.Complaint
import PortMap.Disk.Making
import PortMap.Settings.Environment
import PortMap.Settings.Held
import PortMap.Settings.Overlay
import PortMap.Text.Encoding
import PortMap.Toml.Reader
import PortMap.Toml.Writer

/-!
# Where settings are kept

Settings are loaded from three sources, each laid over the one before it: the defaults, a file, and the
environment. The file is the one that is named, which has to be there, or the first of three that is
there. A file that breaks a rule of TOML leaves a warning and contributes nothing, but bytes outside of
UTF-8 stop the loading, and so do the other faults of a document, and a path that is too long to be
looked up.

A `Store` holds the loaded settings beside the files and the environment from which they can be loaded
again. Whoever asks for settings that are not loaded yet has them loaded.
-/

namespace PortMap.Settings

open Disk

/-- Why there are no settings, or why they cannot be written. -/
inductive Fault where
  /-- The file that was named is not there. -/
  | fileNotFound (path : Path)
  /-- A file cannot be looked up, because its path is too long. -/
  | pathTooLong (path : Path)
  /-- The settings have issues. -/
  | invalid (issues : List Issue)
  /-- Nothing has been loaded that could be loaded again. -/
  | notLoaded
  /-- The file is not in UTF-8. -/
  | undecodable (u : Text.Undecodable)
  /-- The file is no document. -/
  | unreadable (f : Toml.Fault)
  /-- The settings cannot be written as a document. -/
  | unwritable (f : Toml.Fault)
  /-- A setting that does not exist was set. -/
  | noField (s : Section) (name : String)
  /-- A setting was set in a section that does not exist. -/
  | noSection (name : String)

namespace Fault

/-- What a cause amounts to: a complaint if it is about the settings, else the text that it brings
along. -/
def account : Fault → Complaint ⊕ String
  | .fileNotFound path =>
    .inl (.ofKind .configuration (some ("Configuration file not found: " ++ path.text)) .null .null)
  | .pathTooLong path => .inr (MakeFault.blocked .tooLong path).message
  | .invalid issues =>
    .inl (.ofKind .configuration
      (some ("Invalid configuration: " ++ Issue.report modelName issues)) .null .null)
  | .notLoaded => .inl (.ofKind .configuration (some "Configuration not initialized") .null .null)
  | .undecodable u => .inr u.message
  | .unreadable f => .inr f.message
  | .unwritable f => .inr f.message
  | .noField s name => .inr ("\"" ++ s.modelName ++ "\" object has no field \"" ++ name ++ "\"")
  | .noSection name =>
    .inr (Text.quoted modelName ++ " object has no attribute " ++ Text.quoted name)

end Fault

/-! ### Finding and reading a file -/

/-- The name of the file of settings. -/
def fileName : String := "natpmpc.toml"

/-- The files that are looked for, in order. -/
def searchPaths (t : Tree) : List Path :=
  [t.pathOf (t.working ++ [fileName]),
    t.pathOf (t.home ++ [".config", "natpmpc", fileName]),
    t.pathOf (t.home ++ [".natpmpc.toml"])]

/-- The path of a file that is named; the empty name stands for none. -/
def namedPath? (name : String) : Option Path := if name = "" then none else some (.ofText name)

/-- The first of some paths at which something stands. -/
def firstThere (t : Tree) : List Path → Except Fault (Option Path)
  | [] => .ok none
  | p :: rest =>
    if t.isBeyondLimits p then .error (.pathTooLong p)
    else if t.isThere p then .ok (some p)
    else firstThere t rest

/-- The file to be read: the one that is named, or the first of those that are looked for. -/
def findFile (t : Tree) (named : Option Path) : Except Fault (Option Path) :=
  match named with
  | some p =>
    if t.isBeyondLimits p then .error (.pathTooLong p)
    else if t.isFile p then .ok (some p)
    else .error (.fileNotFound p)
  | none => firstThere t (searchPaths t)

/-- The warning that a file was not read. -/
def unreadNotice (p : Path) (cause : String) : Log.Notice :=
  ⟨.warning, "root", "Failed to load config file " ++ p.text ++ ": " ++ cause⟩

/-- What a file contributes, and the warnings about it. -/
def readFile (t : Tree) (p : Path) : Except Fault Table × List Log.Notice :=
  match t.get? p with
  | none => (.ok [], [])
  | some .directory => (.ok [], [unreadNotice p "IsADirectoryError"])
  | some .locked => (.ok [], [unreadNotice p "PermissionError"])
  | some (.file d) =>
    match Text.readUtf8 d with
    | .error u => (.error (.undecodable u), [])
    | .ok s =>
      match Toml.read (Text.unixBreaks s) with
      | .ok table => (.ok table, [])
      | .error .malformed => (.ok [], [unreadNotice p "TomlDecodeError"])
      | .error f => (.error (.unreadable f), [])

/-- Checks a table from a file with the environment laid over it. -/
def ofSources (file : Table) (e : Environment) : Except Fault Settings :=
  (ofTable (Table.overlay file e.toTable)).mapError .invalid

/-- Loads the settings from a file, if there is one, and the environment. -/
def load (t : Tree) (e : Environment) (file : Option Path) :
    Except Fault Settings × List Log.Notice :=
  match file with
  | none => (ofSources [] e, [])
  | some p =>
    match readFile t p with
    | (.error fault, notices) => (.error fault, notices)
    | (.ok table, notices) => (ofSources table e, notices)

/-! ### Stores -/

/-- Settings that were loaded, and the file for loading them again. -/
structure Loaded where
  /-- The file. -/
  file : Option Path
  /-- The settings. -/
  held : Held

/-- The loaded settings with all that they can be loaded from. -/
structure Store where
  /-- The files. -/
  tree : Tree
  /-- The environment. -/
  environment : Environment := []
  /-- What is loaded. -/
  loaded : Option Loaded := none
  /-- The notices that were written, in order. -/
  notices : List Log.Notice := []

namespace Store

/-- Loads settings from the file that is named, or from one that is found. What was loaded before is
replaced only if that succeeds. -/
def init (named : Option Path) (s : Store) : Except Fault Loaded × Store :=
  match findFile s.tree named with
  | .error fault => (.error fault, s)
  | .ok file =>
    match load s.tree s.environment file with
    | (.error fault, notices) => (.error fault, { s with notices := s.notices ++ notices })
    | (.ok settings, notices) =>
      (.ok ⟨file, ⟨settings, []⟩⟩,
        { s with loaded := some ⟨file, ⟨settings, []⟩⟩, notices := s.notices ++ notices })

/-- What is loaded; if nothing is, it is loaded now. -/
def get (s : Store) : Except Fault Loaded × Store :=
  match s.loaded with
  | some l => (.ok l, s)
  | none => s.init none

/-- Loads the settings again from the same file. -/
def reload (s : Store) : Except Fault Loaded × Store :=
  match s.loaded with
  | none => (.error .notLoaded, s)
  | some l =>
    match load s.tree s.environment l.file with
    | (.error fault, notices) => (.error fault, { s with notices := s.notices ++ notices })
    | (.ok settings, notices) =>
      (.ok ⟨l.file, ⟨settings, []⟩⟩,
        { s with loaded := some ⟨l.file, ⟨settings, []⟩⟩, notices := s.notices ++ notices })

/-- Changes what is loaded; if nothing is, it is loaded first. -/
def update (f : Held → Except Fault Held) (s : Store) : Except Fault Loaded × Store :=
  match s.get with
  | (.error fault, s) => (.error fault, s)
  | (.ok l, s) =>
    match f l.held with
    | .error fault => (.error fault, s)
    | .ok held => (.ok ⟨l.file, held⟩, { s with loaded := some ⟨l.file, held⟩ })

/-- Replaces the settings. -/
def replace (settings : Settings) (s : Store) : Except Fault Loaded × Store :=
  s.update fun _ => .ok ⟨settings, []⟩

/-- Sets the setting with a name in a section, without a check of the value. A name that begins with an
underscore is none of a setting, and nothing comes of setting it. -/
def assign (section_ name : String) (v : Value) (s : Store) : Except Fault Loaded × Store :=
  s.update fun h =>
    match Section.ofName? section_ with
    | none => .error (.noSection section_)
    | some s =>
      match s.field? name with
      | some f => .ok (h.set f v)
      | none => if name.startsWith "_" then .ok h else .error (.noField s name)

/-- The settings as TOML. -/
def export_ (s : Store) : Except Fault String × Store :=
  match s.get with
  | (.error fault, s) => (.error fault, s)
  | (.ok l, s) =>
    match Toml.write l.held.toDocument with
    | .ok text => (.ok text, s)
    | .error f => (.error (.unwritable f), s)

end Store

end PortMap.Settings
