import ChangelogSql.Main
import ChangelogSql.Proofs.DiscoveryExactness
import ChangelogSql.Proofs.ResolverAttempts
import ChangelogSql.Proofs.RunAccounting
import ChangelogSql.Proofs.RunCourse
import ChangelogSql.Sandbox.Basic
import ChangelogSql.Toolchain.Scripted
import ChangelogSql.Proofs.StoreLeftovers
import ChangelogSql.Proofs.ConversionOrder
import ChangelogSql.Proofs.JarOnCommandLine
import ChangelogSql.Proofs.CoordinateMatch
import ChangelogSql.Proofs.PlacePaths
import ChangelogSql.Proofs.RootedSearch
import ChangelogSql.Proofs.WrittenFiles
import ChangelogSql.Proofs.SecondRun
import ChangelogSql.Proofs.MirroredRun
import ChangelogSql.Proofs.ProcessLog
import ChangelogSql.Proofs.LikeMachines
import ChangelogSql.Proofs.RunVerdict
import ChangelogSql.Proofs.ExitCode
import ChangelogSql.Proofs.ByteMachines
import ChangelogSql.Proofs.MarkerInBytes
import ChangelogSql.Proofs.CapturedText
import ChangelogSql.Proofs.ManifestSearch
import ChangelogSql.Proofs.VisitorCalls
import ChangelogSql.Proofs.JarNames
import ChangelogSql.Proofs.OutputPaths
import ChangelogSql.Proofs.OutputsApart
import ChangelogSql.Proofs.BuildOutput
import ChangelogSql.Proofs.RedactedText
import ChangelogSql.Proofs.RunMessages
