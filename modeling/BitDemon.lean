import BitDemon.DwServer.GroupService
import BitDemon.DwServer.PrivateFiles
import BitDemon.DwServer.ProofLifetime
import BitDemon.DwServer.Social.Revisions
import BitDemon.DwServer.StreamTokens
import BitDemon.Lobby.Matchmaking
import BitDemon.Lobby.Server
import BitDemon.Messaging.RoundTrip
import BitDemon.Networking.SessionManager
import BitDemon.DwServer.Connections
import BitDemon.DwServer.RichPresence
import BitDemon.DwServer.SharedWriter
import BitDemon.Messaging.Graceful
import BitDemon.Networking.ConnectionLoop
import BitDemon.Auth.AuthServer
import BitDemon.Lobby.Dispatch
import BitDemon.Networking.Unauthenticated
import BitDemon.DwServer.LiveProofs
import BitDemon.Lobby.SessionSearch
import BitDemon.Lobby.Advertisements
import BitDemon.Lobby.MatchMakingRuns
import BitDemon.DwServer.Profile
import BitDemon.DwServer.Social.Failures
import BitDemon.DwServer.Social.Roster
import BitDemon.DwServer.StreamLimits
import BitDemon.DwServer.StreamReports
import BitDemon.DwServer.TitleFiles
import BitDemon.DwServer.UserIds
import BitDemon.Lobby.Handlers.Serviceless
import BitDemon.Lobby.Population
import BitDemon.Lobby.TaskIds
import BitDemon.DwServer.CreatedFiles
import BitDemon.DwServer.FileFilter
import BitDemon.DwServer.ProfileMap
import BitDemon.DwServer.PublisherFiles
import BitDemon.DwServer.Social.Invites
import BitDemon.DwServer.StreamLookups
import BitDemon.DwServer.StreamMetadata
import BitDemon.DwServer.UploadCycles
import BitDemon.Library.FirstOfEach
import BitDemon.Lobby.DistinctLobbies
import BitDemon.Lobby.Router
import BitDemon.Auth.TicketNames
import BitDemon.DwServer.Counters
import BitDemon.DwServer.PublisherListing
import BitDemon.DwServer.PublisherRefreshes
import BitDemon.DwServer.Social.Member
import BitDemon.DwServer.Social.NameSearch
import BitDemon.Lobby.ArgumentLists
import BitDemon.Lobby.PublicInfos
import BitDemon.DwServer.Recording
import BitDemon.Messaging.PeekRuns
import BitDemon.Messaging.ReadBits
import BitDemon.Messaging.WriteBits
import BitDemon.DwServer.Social.Sessions
import BitDemon.DwServer.Social.Joining
import BitDemon.DwServer.Social.Delivery
import BitDemon.DwServer.RecordingNames
import BitDemon.DwServer.Uploads
import BitDemon.Networking.Sealing
import BitDemon.DwServer.Carried
import BitDemon.Lobby.Exchange
import BitDemon.DwServer.PublisherDownloads
import BitDemon.DwServer.Downloads
import BitDemon.DwServer.LobbyRuns
import BitDemon.DwServer.PublisherData
