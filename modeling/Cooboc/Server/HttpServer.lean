import Mathlib.Data.List.Basic

/-! The web pages of `server/index.js`: the request handler, `sendFile`, and what they take
from `config.js`, from `mime.js` and from the file system.
-/

namespace Cooboc.Server

/-- Path names and file names. -/
abbrev PathText := List Char

/-- What is on disk under a file name. -/
inductive Entry where
  | missing
  | directory
  | file (content : List UInt8)
deriving DecidableEq

/-- `config.staticDir` of the exported configuration. -/
def staticDir : PathText := "static-hr/".toList

/-- `config.defaultIndex` of the exported configuration. -/
def defaultIndex : PathText := "static-hr/index.html".toList

/-- The names after a slash under which no regular file can be: the directory itself, twice,
and its parent.
-/
def directoryNames : List PathText := [[], ['.'], ['.', '.']]

/-- A file system, in which the default page is a file. -/
structure FileSystem where
  entry : PathText → Entry
  index_file : ∃ content, entry defaultIndex = .file content
  names_directory : ∀ above, ∀ name ∈ directoryNames, ∀ content,
    entry (above ++ '/' :: name) ≠ .file content

/-- The table of `mime.js`, indexed by an extension with its dot, and the values `writeHead`
takes for a header. Every text is taken; whether `undefined` is depends on the version of Node.
-/
structure HttpLibrary where
  mime : PathText → Option String
  mime_html : mime ".html".toList = some "text/html"
  takes : Option String → Bool
  takes_text : ∀ text, takes (some text) = true

/-- What the handler calls on the response. -/
inductive ResponseCall where
  | writeHead (statusCode : Nat) (headers : List (String × Option String))
  | writeFile (filename : PathText) (content : List UInt8)
  | writeText (text : String)
  | done
deriving DecidableEq

/-- The calls one request has caused, and whether an exception left the handler. -/
structure HttpOutcome where
  calls : List ResponseCall
  uncaught : Bool
deriving DecidableEq

/-- `fs.existsSync`. -/
def FileSystem.existsSync (files : FileSystem) (filename : PathText) : Bool :=
  files.entry filename ≠ .missing

/-- `fs.readFileSync`; `none` is an exception. -/
def FileSystem.readFileSync (files : FileSystem) (filename : PathText) : Option (List UInt8) :=
  match files.entry filename with
  | .file content => some content
  | _ => none

/-- `resp.writeHead`; `none` is an exception. -/
def HttpLibrary.writeHead (library : HttpLibrary) (statusCode : Nat)
    (headers : List (String × Option String))
    : Option ResponseCall :=
  if headers.all (fun header => library.takes header.2) then
    some (.writeHead statusCode headers)
  else
    none

/-- `path.extname`: the last component of the name from its last dot on, unless that dot is
its first character or the component is the parent directory.
-/
def extname (filename : PathText) : PathText :=
  -- The component is read from its end.
  let reversed := (filename.reverse.dropWhile (· == '/')).takeWhile (· ≠ '/')
  let afterDot := reversed.takeWhile (· ≠ '.')
  if reversed = ['.', '.'] then
    []
  else
    match reversed.drop afterDot.length with
    | _ :: _ :: _ => '.' :: afterDot.reverse
    | _ => []

def sendFile (library : HttpLibrary) (files : FileSystem) (filename : PathText)
    : HttpOutcome :=
  match library.writeHead 200
      [("Content-Type", library.mime (extname filename)),
        ("Access-Control-Allow-Origin", some "*")] with
  | none => ⟨[], true⟩
  | some head =>
      match files.readFileSync filename with
      | none => ⟨[head], true⟩
      | some file => ⟨[head, .writeFile filename file, .done], false⟩

/-- `urlObj.pathname.split("/")`. -/
def pathSplit (pathname : PathText) : List PathText := pathname.splitOn '/'

/-- The file name made of a path's third component, which may be missing. -/
def staticFile (pathname : PathText) : PathText :=
  staticDir ++ (pathSplit pathname)[2]?.getD "undefined".toList

/-- The answer to a path below `/static` whose file is missing. -/
def sendNotFound (library : HttpLibrary) : HttpOutcome :=
  match library.writeHead 404 [] with
  | none => ⟨[], true⟩
  | some head => ⟨[head, .writeText "static file not found", .done], false⟩

/-- The request handler, from the path name on. -/
def handleRequest (library : HttpLibrary) (files : FileSystem) (pathname : PathText)
    : HttpOutcome :=
  if (pathSplit pathname).length = 2 ∧ (pathSplit pathname)[1]? = some [] then
    sendFile library files defaultIndex
  else if (pathSplit pathname)[1]? = some "static".toList then
    if files.existsSync (staticFile pathname) then
      sendFile library files (staticFile pathname)
    else
      sendNotFound library
  else
    -- The source has no branch for any other path.
    ⟨[], false⟩

/-- The request is answered: the handler returns, having ended one response. -/
structure HttpOutcome.Answered (outcome : HttpOutcome) : Prop where
  returned : outcome.uncaught = false
  ended_once : outcome.calls.count .done = 1

/-- A name of the default page, or of a file directly inside the static directory. -/
def Published (filename : PathText) : Prop :=
  filename = defaultIndex ∨
    ∃ name, '/' ∉ name ∧ name ∉ directoryNames ∧ filename = staticDir ++ name

/-- Every file content sent is that of a published file. -/
def HttpOutcome.FromStatic (files : FileSystem) (outcome : HttpOutcome) : Prop :=
  ∀ filename content, .writeFile filename content ∈ outcome.calls
    → files.entry filename = .file content ∧ Published filename

/-- `sendFile` gets through: there is a file, and `writeHead` takes the type of its name. -/
def Sendable (library : HttpLibrary) (files : FileSystem) (filename : PathText) : Prop :=
  (∃ content, files.entry filename = .file content) ∧
    library.takes (library.mime (extname filename)) = true

/-- The paths that are answered: the root, and those below `/static` whose file is missing or
can be sent.
-/
def Answerable (library : HttpLibrary) (files : FileSystem) (pathname : PathText) : Prop :=
  pathname = ['/'] ∨
    ((pathSplit pathname)[1]? = some "static".toList ∧
      (files.entry (staticFile pathname) = .missing ∨
        Sendable library files (staticFile pathname)))

-----------------------------------------------------------------------------------------
-- Path components
-----------------------------------------------------------------------------------------

/-- The components of an absolute path follow an empty one. Witness: the first character is
the separator.
-/
theorem pathSplit_absolute (rest : PathText)
    : pathSplit ('/' :: rest) = [] :: pathSplit rest := by
  simp [pathSplit, List.splitOn_cons_eq_if_modifyHead]

/-- Only the empty text has one empty component. Witness: joining the components gives the
text back.
-/
theorem pathSplit_eq_empty (text : PathText) : pathSplit text = [[]] ↔ text = [] := by
  constructor
  · intro single
    have joined : ['/'].intercalate (text.splitOn '/') = text :=
      List.intercalate_splitOn '/'
    rw [← pathSplit, single] at joined
    exact joined.symm
  · intro empty
    rw [empty]
    rfl

/-- The first test of the handler recognises the root. Witness: after the empty component, a
list of one is left.
-/
theorem rootTest_iff (rest : PathText)
    : (pathSplit ('/' :: rest)).length = 2 ∧ (pathSplit ('/' :: rest))[1]? = some []
      ↔ rest = [] := by
  rw [← pathSplit_eq_empty, pathSplit_absolute]
  constructor
  · intro ⟨two, second⟩
    obtain ⟨only, single⟩ : ∃ only, pathSplit rest = [only] :=
      List.length_eq_one_iff.mp (by simpa using two)
    rw [single] at second ⊢
    simpa using second
  · intro single
    simp [single]

/-- No component contains a slash: by induction on the text, whose first character either
opens a new component or belongs to the first one.
-/
theorem slash_not_mem_component (text component : PathText)
    (member : component ∈ pathSplit text)
    : '/' ∉ component := by
  induction text generalizing component with
  | nil =>
      rw [List.mem_singleton.mp member]
      exact List.not_mem_nil
  | cons first rest ih =>
      rw [pathSplit, List.splitOn_cons_eq_if_modifyHead] at member
      split at member
      next =>
        rcases List.mem_cons.mp member with empty | later
        · rw [empty]
          exact List.not_mem_nil
        · exact ih component later
      next separate =>
        obtain ⟨head, tail, components⟩ :=
          List.exists_cons_of_ne_nil (List.splitOn_ne_nil '/' rest)
        rw [components, List.modifyHead_cons] at member
        have inner : ∀ part ∈ head :: tail, '/' ∉ part := by
          rw [← components]
          exact ih
        rcases List.mem_cons.mp member with extended | later
        · rw [extended, List.mem_cons, not_or]
          refine ⟨?_, inner head List.mem_cons_self⟩
          intro same
          exact separate (beq_iff_eq.mpr same.symm)
        · exact inner component (List.mem_cons_of_mem _ later)

/-- The name made from a path's third component has no slash of its own. -/
theorem staticFile_name (pathname : PathText)
    : ∃ name, '/' ∉ name ∧ staticFile pathname = staticDir ++ name := by
  refine ⟨_, ?_, rfl⟩
  cases component : (pathSplit pathname)[2]? with
  | none => decide
  | some name => exact slash_not_mem_component pathname name (List.mem_of_getElem? component)

-----------------------------------------------------------------------------------------
-- Sending a file
-----------------------------------------------------------------------------------------

/-- `writeHead` takes the headers of a file exactly if it takes its content type. Witness: the
other header is a text.
-/
theorem writeHead_fileHeaders (library : HttpLibrary) (statusCode : Nat)
    (contentType : Option String)
    : library.writeHead statusCode
        [("Content-Type", contentType), ("Access-Control-Allow-Origin", some "*")]
      = if library.takes contentType then
          some (.writeHead statusCode
            [("Content-Type", contentType), ("Access-Control-Allow-Origin", some "*")])
        else
          none := by
  simp [HttpLibrary.writeHead, library.takes_text]

/-- A call with no headers gets through. Witness: there is nothing to refuse. -/
theorem sendNotFound_eq (library : HttpLibrary)
    : sendNotFound library
      = ⟨[.writeHead 404 [], .writeText "static file not found", .done], false⟩ := rfl

/-- `readFileSync` returns exactly on files, with their content. Witness: its three cases. -/
theorem readFileSync_eq_some (files : FileSystem) (filename : PathText)
    (content : List UInt8)
    : files.readFileSync filename = some content ↔ files.entry filename = .file content := by
  unfold FileSystem.readFileSync
  cases files.entry filename <;> simp

/-- A request is answered by `sendFile` exactly if the file can be sent. Witness: the call ends
the response in the one branch that neither `writeHead` nor `readFileSync` leaves.
-/
theorem sendFile_answered_iff (library : HttpLibrary) (files : FileSystem)
    (filename : PathText)
    : (sendFile library files filename).Answered ↔ Sendable library files filename := by
  unfold sendFile Sendable
  rw [writeHead_fileHeaders]
  by_cases taken : library.takes (library.mime (extname filename)) = true
  · cases read : files.readFileSync filename with
    | none =>
        constructor
        · intro answered
          simpa [taken] using answered.returned
        · intro ⟨⟨content, isFile⟩, _⟩
          rw [(readFileSync_eq_some files filename content).mpr isFile] at read
          cases read
    | some content =>
        constructor
        · intro _
          exact ⟨⟨content, (readFileSync_eq_some files filename content).mp read⟩, taken⟩
        · intro _
          rw [if_pos taken]
          exact ⟨rfl, by simp⟩
  · constructor
    · intro answered
      simpa [taken] using answered.returned
    · intro ⟨_, taken'⟩
      exact absurd taken' taken

/-- `sendFile` sends no content but that of the file it is asked for. Witness: it writes in one
branch, what `readFileSync` returned.
-/
theorem sendFile_content (library : HttpLibrary) (files : FileSystem)
    (filename sent : PathText) (content : List UInt8)
    (member : .writeFile sent content ∈ (sendFile library files filename).calls)
    : sent = filename ∧ files.entry filename = .file content := by
  unfold sendFile at member
  rw [writeHead_fileHeaders] at member
  split at member
  next => simp at member
  next head taken =>
    have noFile : head ≠ .writeFile sent content := by
      intro same
      subst same
      split at taken <;> cases taken
    split at member
    next => exact absurd (List.mem_singleton.mp member).symm noFile
    next read =>
      rcases List.mem_cons.mp member with first | later
      · exact absurd first.symm noFile
      · simp only [List.mem_cons, ResponseCall.writeFile.injEq, reduceCtorEq,
          List.not_mem_nil, or_false] at later
        obtain ⟨name, body⟩ := later
        subst body
        exact ⟨name, (readFileSync_eq_some files filename _).mp read⟩

/-- The default page can be sent. Witness: it is a file, and `mime.js` has the type of its
extension.
-/
theorem defaultIndex_sendable (library : HttpLibrary) (files : FileSystem)
    : Sendable library files defaultIndex := by
  refine ⟨files.index_file, ?_⟩
  have extension : extname defaultIndex = ".html".toList := by decide
  rw [extension, library.mime_html]
  exact library.takes_text _

/-- A file found under the name made from a path is published. Witness: the name has no slash,
and under the names of directories no file is found.
-/
theorem staticFile_published (files : FileSystem) (pathname : PathText)
    (content : List UInt8)
    (isFile : files.entry (staticFile pathname) = .file content)
    : Published (staticFile pathname) := by
  obtain ⟨name, plain, named⟩ := staticFile_name pathname
  refine .inr ⟨name, plain, ?_, named⟩
  intro directory
  rw [named] at isFile
  exact files.names_directory "static-hr".toList name directory content isFile

-----------------------------------------------------------------------------------------
-- The handler
-----------------------------------------------------------------------------------------

/-- What `sendFile` sends of a published name is published. Witness: it sends the file it is
asked for.
-/
theorem sendFile_fromStatic (library : HttpLibrary) (files : FileSystem)
    (filename : PathText)
    (published : ∀ content, files.entry filename = .file content → Published filename)
    : (sendFile library files filename).FromStatic files := by
  intro sent content member
  obtain ⟨same, isFile⟩ := sendFile_content library files filename sent content member
  rw [same]
  exact ⟨isFile, published content isFile⟩

/-- File contents come from the static directory, whatever the path. Witness: the handler sends
the default page, or a file named after the path, or none.
-/
theorem handleRequest_fromStatic (library : HttpLibrary) (files : FileSystem)
    (pathname : PathText)
    : (handleRequest library files pathname).FromStatic files := by
  unfold handleRequest
  split
  next => exact sendFile_fromStatic library files defaultIndex (fun _ _ => .inl rfl)
  next =>
    split
    next =>
      split
      next =>
        exact sendFile_fromStatic library files _
          (fun content => staticFile_published files pathname content)
      next =>
        intro sent content member
        simp [sendNotFound_eq] at member
    next =>
      intro sent content member
      cases member

/-- A path is answered exactly if it is answerable: the root gets the default page, a path
below `/static` the file or the answer that it is missing, any other path nothing.
-/
theorem handleRequest_answered_iff (library : HttpLibrary) (files : FileSystem)
    (rest : PathText)
    : (handleRequest library files ('/' :: rest)).Answered
      ↔ Answerable library files ('/' :: rest) := by
  unfold handleRequest Answerable
  split
  next root =>
    have isRoot : rest = [] := (rootTest_iff rest).mp root
    rw [sendFile_answered_iff]
    simp [defaultIndex_sendable, isRoot]
  next notRoot =>
    have otherPath : '/' :: rest ≠ ['/'] := by
      intro same
      exact notRoot ((rootTest_iff rest).mpr (List.cons.inj same).2)
    split
    next below =>
      simp only [otherPath, below, true_and, false_or]
      split
      next found =>
        have present : files.entry (staticFile ('/' :: rest)) ≠ .missing := by
          simpa [FileSystem.existsSync] using found
        rw [sendFile_answered_iff]
        simp [present]
      next absent =>
        have missing : files.entry (staticFile ('/' :: rest)) = .missing := by
          simpa [FileSystem.existsSync] using absent
        rw [sendNotFound_eq]
        exact iff_of_true ⟨rfl, by decide⟩ (.inl missing)
    next elsewhere =>
      refine iff_of_false ?_ ?_
      · intro answered
        simpa using answered.ended_once
      · intro answerable
        rcases answerable with root | ⟨below, _⟩
        · exact otherPath root
        · exact elsewhere below

/-- A request is answered, from the static directory, exactly if its path is answerable. -/
theorem request_answered_iff (library : HttpLibrary) (files : FileSystem) (rest : PathText)
    : ((handleRequest library files ('/' :: rest)).Answered
        ∧ (handleRequest library files ('/' :: rest)).FromStatic files)
      ↔ Answerable library files ('/' :: rest) := by
  rw [handleRequest_answered_iff]
  exact and_iff_left (handleRequest_fromStatic library files _)

/-- The last character of a directory's name is a slash or a dot. Witness: the three names. -/
theorem directoryNames_getLast (above name : PathText) (directory : name ∈ directoryNames)
    : (above ++ '/' :: name).getLast? = some '/'
      ∨ (above ++ '/' :: name).getLast? = some '.' := by
  rw [List.getLast?_append_of_ne_nil _ (List.cons_ne_nil '/' name)]
  simp only [directoryNames, List.mem_cons, List.not_mem_nil, or_false] at directory
  rcases directory with empty | dot | dots
  · exact .inl (by rw [empty]; rfl)
  · exact .inr (by rw [dot]; rfl)
  · exact .inr (by rw [dots]; rfl)

/-- A disk with the default page in its directory. -/
def pageOnly : FileSystem where
  entry filename :=
    if filename = defaultIndex then .file []
    else if filename = staticDir then .directory
    else .missing
  index_file := ⟨[], if_pos rfl⟩
  names_directory := by
    intro above name directory content isFile
    split_ifs at isFile with same
    have last := directoryNames_getLast above name directory
    rw [same] at last
    revert last
    decide

/-- A table with one type, and a `writeHead` that takes every value. -/
def lenient : HttpLibrary where
  mime extension := if extension = ".html".toList then some "text/html" else none
  mime_html := if_pos rfl
  takes _ := true
  takes_text _ := rfl

/-- Not every request is answered: one for `/favicon.ico`, as browsers send it, gets no
response.
-/
theorem request_not_answered
    : ¬ ∀ (library : HttpLibrary) (files : FileSystem) (rest : PathText),
        (handleRequest library files ('/' :: rest)).Answered
          ∧ (handleRequest library files ('/' :: rest)).FromStatic files := by
  intro always
  have answered := (always lenient pageOnly "favicon.ico".toList).1.ended_once
  revert answered
  decide

end Cooboc.Server
