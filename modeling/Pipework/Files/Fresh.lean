import Pipework.Files.Tree

namespace Pipework.FileTree

def toolNames : List String :=
  ["[", "basename", "cat", "chmod", "cp", "cut", "dirname", "echo", "env", "expr", "false", "grep",
    "head", "kill", "ln", "ls", "mkdir", "mkfifo", "mv", "nl", "printf", "pwd", "rev", "rm",
    "rmdir", "seq", "sh", "sleep", "sort", "tac", "tail", "tee", "test", "touch", "tr", "true",
    "uniq", "wc", "yes"]

def toolDirs : List Path := ["/usr/bin", "/bin"].map Path.ofText

def locationOf (names : List String) : Location := names.map Path.ofText

def workDir : Location := locationOf ["tmp", "work"]

def tools (dir : List String) : List (Location × FileEntry) :=
  toolNames.map fun name => (locationOf (dir ++ [name]), .tool name)

def fresh : FileTree where
  entries :=
    [locationOf ["bin"], locationOf ["usr"], locationOf ["usr", "bin"], locationOf ["dev"],
      locationOf ["dev", "shm"], locationOf ["tmp"], workDir].map (·, .directory) ++
    [(locationOf ["dev", "null"], .sink)] ++ tools ["bin"] ++ tools ["usr", "bin"]
  current := workDir

end Pipework.FileTree
