import ChangelogSql.Shell.Session
import ChangelogSql.Utility.Checksum
import ChangelogSql.Utility.Column
import ChangelogSql.Utility.Contrast
import ChangelogSql.Utility.Decision
import ChangelogSql.Utility.Editing.Run
import ChangelogSql.Utility.Dump
import ChangelogSql.Utility.Errand
import ChangelogSql.Utility.Find
import ChangelogSql.Utility.Gathering
import ChangelogSql.Utility.Grep
import ChangelogSql.Utility.Listing
import ChangelogSql.Utility.Permission
import ChangelogSql.Utility.Printing
import ChangelogSql.Utility.Records.Command
import ChangelogSql.Utility.Say
import ChangelogSql.Utility.Show
import ChangelogSql.Utility.Sorting
import ChangelogSql.Utility.Transfer
import ChangelogSql.Utility.Translate
import ChangelogSql.Utility.Version

/-!
The programs of the machine itself, by their names.
-/

namespace ChangelogSql.Local

open Files Programs Kernel
open Utility

/-- What a program does, given what starts others and how it was called. -/
abbrev Program := Loader → Call → Task

namespace Program

/-- A program that does not start others and knows only its arguments. -/
def plain (tool : List Bytes → Tool Unit) : Program := fun _ call =>
  (tool call.arguments).task call

/-- A program that does not start others. -/
def called (tool : Call → Tool Unit) : Program := fun _ call =>
  (tool call).task call

/-- A program that starts others. -/
def starting (tool : Loader → Call → Tool Unit) : Program := fun loader call =>
  (tool loader call).task call

/-- The programs that say something, by their names. -/
def sayings : List (String × Program) :=
  [("arch", plain fun _ => Say.constant "x86_64"), ("basename", plain Say.names),
    ("dirname", plain Say.directories), ("echo", plain Say.echo),
    ("false", plain fun _ => Say.verdict 1), ("id", plain Say.identity),
    ("printenv", called Say.printVariables), ("printf", plain Printing.print),
    ("pwd", called Say.directory),
    ("seq", plain Say.sequence), ("sleep", plain Say.sleep),
    ("true", plain fun _ => Say.verdict 0), ("uname", plain Say.system),
    ("whoami", plain fun _ => Say.constant "root"), ("yes", plain Say.yes),
    ("expr", plain Decision.evaluate), ("test", plain (Decision.test false)),
    ("[", plain (Decision.test true))]

/-- The programs that put out what they read, changed or chosen. -/
def filters : List (String × Program) :=
  [("awk", starting Records.goThroughRecords), ("mawk", starting Records.goThroughRecords),
    ("cat", plain Show.concatenate), ("cmp", plain Contrast.bytes),
    ("comm", plain Sorting.common), ("cut", plain Column.cut), ("diff", plain Contrast.lines),
    ("egrep", plain (Grep.grep [Bytes.ofString "-E"])), ("expand", plain Column.expand),
    ("fgrep", plain (Grep.grep [Bytes.ofString "-F"])), ("fold", plain Column.fold),
    ("grep", plain (Grep.grep [])), ("head", plain (Show.part false)),
    ("nl", plain Column.numberLines), ("paste", plain Column.paste), ("rev", plain Column.reverse),
    ("sed", plain Editing.stream), ("sort", plain Sorting.sort), ("split", plain Column.split),
    ("tac", plain Column.backwards),
    ("tail", plain (Show.part true)), ("tee", plain Show.tee), ("tr", plain Translate.translate),
    ("unexpand", plain Column.unexpand), ("uniq", plain Sorting.unique), ("wc", plain Show.tally)]

/-- The programs that show bytes as something else, by their names. -/
def checkers : List (String × Program) :=
  [("base32", plain (Dump.transcribe Dump.base32)),
    ("base64", plain (Dump.transcribe Dump.base64)), ("od", plain Dump.tabulate),
    ("cksum", plain Checksum.remainders), ("md5sum", plain (Checksum.run Checksum.md5)),
    ("sha1sum", plain (Checksum.run Checksum.sha1)),
    ("sha224sum", plain (Checksum.run Checksum.sha224)),
    ("sha256sum", plain (Checksum.run Checksum.sha256)),
    ("sha384sum", plain (Checksum.run Checksum.sha384)),
    ("sha512sum", plain (Checksum.run Checksum.sha512))]

/-- The programs that look at directories and change them. -/
def keepers : List (String × Program) :=
  [("chgrp", plain Permission.giveAway), ("chmod", plain Permission.change),
    ("chown", plain Permission.giveAway), ("cp", plain Transfer.copyAll),
    ("dir", plain Listing.list), ("find", starting Find.find), ("git", called Version.control),
    ("install", plain Transfer.install),
    ("link", plain Entry.link), ("ln", plain Transfer.linkAll), ("ls", plain Listing.list),
    ("mkdir", plain Entry.makeDirectories), ("mkfifo", plain Entry.makePipes),
    ("mktemp", called Entry.makeTemporary), ("mv", plain Transfer.moveAll),
    ("readlink", plain Listing.readLinks), ("realpath", plain Listing.realPaths),
    ("rm", plain Entry.removeAll), ("rmdir", plain Entry.removeDirectories),
    ("stat", plain Listing.tellFacts), ("touch", plain Entry.touch),
    ("truncate", plain Entry.truncate), ("unlink", plain Entry.unlink)]

/-- The programs that call others, by their names. -/
def starters : List (String × Program) :=
  [("env", starting Say.env), ("nice", starting Errand.defer), ("nohup", starting Errand.detach),
    ("setsid", starting Errand.lead), ("stdbuf", starting Errand.buffer),
    ("timeout", starting Errand.limit), ("which", called Errand.locate),
    ("xargs", starting Gathering.gather)]

/-- The programs by their names. -/
def all : List (String × Program) :=
  [("sh", Shell.Session.task), ("dash", Shell.Session.task), ("bash", Shell.Session.task)]
    ++ sayings ++ filters ++ checkers ++ keepers ++ starters

/-- The program of a name. -/
def find? (name : String) : Option Program :=
  all.lookup name

end Program

end ChangelogSql.Local
