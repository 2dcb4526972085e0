import LinkSynthesis.Action.Description.Printer
import LinkSynthesis.Command.LibrarySearch
import LinkSynthesis.Main
import LinkSynthesis.Proofs.Action.DescriptionReadBack
import LinkSynthesis.Proofs.Action.DraftSession
import LinkSynthesis.Proofs.Action.ListFields
import LinkSynthesis.Proofs.Artifact.FileType
import LinkSynthesis.Proofs.Artifact.NameGrammar
import LinkSynthesis.Proofs.Command.ArchiveCommand
import LinkSynthesis.Proofs.Command.ArchiveTokens
import LinkSynthesis.Proofs.Command.FeatureFlags
import LinkSynthesis.Proofs.Command.FinalScript
import LinkSynthesis.Proofs.Command.Format
import LinkSynthesis.Proofs.Command.GroupedLink
import LinkSynthesis.Proofs.Command.InterfaceWrapper
import LinkSynthesis.Proofs.Command.LibraryDirectories
import LinkSynthesis.Proofs.Command.LibraryNames
import LinkSynthesis.Proofs.Command.LibrarySearch
import LinkSynthesis.Proofs.Command.LibraryTokens
import LinkSynthesis.Proofs.Command.MarkedRegions
import LinkSynthesis.Proofs.Command.ObjectFiles
import LinkSynthesis.Proofs.Command.ObjectPrefix
import LinkSynthesis.Proofs.Command.OptionRequests
import LinkSynthesis.Proofs.Command.PositionIndependence
import LinkSynthesis.Proofs.Command.RawCommand
import LinkSynthesis.Proofs.Command.RuntimeDirectory
import LinkSynthesis.Proofs.Command.SharedNativeLibrary
import LinkSynthesis.Proofs.Command.StandIns
import LinkSynthesis.Proofs.Command.StrayLibraries
import LinkSynthesis.Proofs.Command.WholeArchive
import LinkSynthesis.Proofs.Command.WrappedTokens
import LinkSynthesis.Proofs.Path.Segments
import LinkSynthesis.Proofs.Program.Ending
import LinkSynthesis.Proofs.Program.MemberOrder
import LinkSynthesis.Proofs.Program.UnquotedLink
import LinkSynthesis.Proofs.RpathPlan.LimitedWalk
import LinkSynthesis.Proofs.RpathPlan.NearestAncestor
import LinkSynthesis.Proofs.RpathPlan.RootRelative
import LinkSynthesis.Proofs.Shell.Literal
import LinkSynthesis.Proofs.Shell.Script
import LinkSynthesis.Proofs.Toolchain.Memberwise
import LinkSynthesis.Shell.Words
