import ChunkTree.Text.CodeIndex

/-!
# The EUC-KR index

The characters of unified Hangul code by pointer, sixteen a row.
-/

namespace ChunkTree.Text

set_option maxRecDepth 8000 in
def eucKrIndex : CodeIndex where
  width := 16
  rows := #[
    0xac02ac03ac05ac06ac0bac0cac0dac0eac0fac18ac1eac1fac21ac22ac23ac25,
    0xac26ac27ac28ac29ac2aac2bac2eac32ac33ac34000000000000000000000000,
    0xac35ac36ac37ac3aac3bac3dac3eac3fac41ac42ac43ac44ac45ac46ac47ac48,
    0xac49ac4aac4cac4eac4fac50ac51ac52ac53ac55000000000000000000000000,
    0xac56ac57ac59ac5aac5bac5dac5eac5fac60ac61ac62ac63ac64ac65ac66ac67,
    0xac68ac69ac6aac6bac6cac6dac6eac6fac72ac73ac75ac76ac79ac7bac7cac7d,
    0xac7eac7fac82ac87ac88ac8dac8eac8fac91ac92ac93ac95ac96ac97ac98ac99,
    0xac9aac9bac9eaca2aca3aca4aca5aca6aca7acabacadacaeacb1acb2acb3acb4,
    0xacb5acb6acb7acbaacbeacbfacc0acc2acc3acc5acc6acc7acc9accaaccbaccd,
    0xacceaccfacd0acd1acd2acd3acd4acd6acd8acd9acdaacdbacdcacddacdeacdf,
    0xace2ace3ace5ace6ace9acebacedaceeacf2acf4acf7acf8acf9acfaacfbacfe,
    0xacffad01ad02ad03ad05ad07ad08ad09ad0aad0bad0ead10ad12ad13ad14ad15,
    0xad16ad17ad19ad1aad1bad1dad1ead1fad21ad22ad23ad24ad25ad26ad27ad28,
    0xad2aad2bad2ead2fad30ad31ad32ad33000000000000000000000000ad36ad37,
    0xad39ad3aad3bad3dad3ead3fad40ad41ad42ad43ad46ad48ad4aad4bad4cad4d,
    0xad4ead4fad51ad52ad53ad55ad56ad57000000000000000000000000ad59ad5a,
    0xad5bad5cad5dad5ead5fad60ad62ad64ad65ad66ad67ad68ad69ad6aad6bad6e,
    0xad6fad71ad72ad77ad78ad79ad7aad7ead80ad83ad84ad85ad86ad87ad8aad8b,
    0xad8dad8ead8fad91ad92ad93ad94ad95ad96ad97ad98ad99ad9aad9bad9ead9f,
    0xada0ada1ada2ada3ada5ada6ada7ada8ada9adaaadabadacadadadaeadafadb0,
    0xadb1adb2adb3adb4adb5adb6adb8adb9adbaadbbadbcadbdadbeadbfadc2adc3,
    0xadc5adc6adc7adc9adcaadcbadccadcdadceadcfadd2add4add5add6add7add8,
    0xadd9addaaddbadddaddeaddfade1ade2ade3ade5ade6ade7ade8ade9adeaadeb,
    0xadecadedadeeadefadf0adf1adf2adf3adf4adf5adf6adf7adfaadfbadfdadfe,
    0xae02ae03ae04ae05ae06ae07ae0aae0cae0eae0fae10ae11ae12ae13ae15ae16,
    0xae17ae18ae19ae1aae1bae1c000000000000000000000000ae1dae1eae1fae20,
    0xae21ae22ae23ae24ae25ae26ae27ae28ae29ae2aae2bae2cae2dae2eae2fae32,
    0xae33ae35ae36ae39ae3bae3c000000000000000000000000ae3dae3eae3fae42,
    0xae44ae47ae48ae49ae4bae4fae51ae52ae53ae55ae57ae58ae59ae5aae5bae5e,
    0xae62ae63ae64ae66ae67ae6aae6bae6dae6eae6fae71ae72ae73ae74ae75ae76,
    0xae77ae7aae7eae7fae80ae81ae82ae83ae86ae87ae88ae89ae8aae8bae8dae8e,
    0xae8fae90ae91ae92ae93ae94ae95ae96ae97ae98ae99ae9aae9bae9cae9dae9e,
    0xae9faea0aea1aea2aea3aea4aea5aea6aea7aea8aea9aeaaaeabaeacaeadaeae,
    0xaeafaeb0aeb1aeb2aeb3aeb4aeb5aeb6aeb7aeb8aeb9aebaaebbaebfaec1aec2,
    0xaec3aec5aec6aec7aec8aec9aecaaecbaeceaed2aed3aed4aed5aed6aed7aeda,
    0xaedbaeddaedeaedfaee0aee1aee2aee3aee4aee5aee6aee7aee9aeeaaeecaeee,
    0xaeefaef0aef1aef2aef3aef5aef6aef7aef9aefaaefbaefdaefeaeffaf00af01,
    0xaf02af03af04af05000000000000000000000000af06af09af0aaf0baf0caf0e,
    0xaf0faf11af12af13af14af15af16af17af18af19af1aaf1baf1caf1daf1eaf1f,
    0xaf20af21af22af23000000000000000000000000af24af25af26af27af28af29,
    0xaf2aaf2baf2eaf2faf31af33af35af36af37af38af39af3aaf3baf3eaf40af44,
    0xaf45af46af47af4aaf4baf4caf4daf4eaf4faf51af52af53af54af55af56af57,
    0xaf58af59af5aaf5baf5eaf5faf60af61af62af63af66af67af68af69af6aaf6b,
    0xaf6caf6daf6eaf6faf70af71af72af73af74af75af76af77af78af7aaf7baf7c,
    0xaf7daf7eaf7faf81af82af83af85af86af87af89af8aaf8baf8caf8daf8eaf8f,
    0xaf92af93af94af96af97af98af99af9aaf9baf9daf9eaf9fafa0afa1afa2afa3,
    0xafa4afa5afa6afa7afa8afa9afaaafabafacafadafaeafafafb0afb1afb2afb3,
    0xafb4afb5afb6afb7afbaafbbafbdafbeafbfafc1afc2afc3afc4afc5afc6afca,
    0xafccafcfafd0afd1afd2afd3afd5afd6afd7afd8afd9afdaafdbafddafdeafdf,
    0xafe0afe1000000000000000000000000afe2afe3afe4afe5afe6afe7afeaafeb,
    0xafecafedafeeafefaff2aff3aff5aff6aff7aff9affaaffbaffcaffdaffeafff,
    0xb002b003000000000000000000000000b005b006b007b008b009b00ab00bb00d,
    0xb00eb00fb011b012b013b015b016b017b018b019b01ab01bb01eb01fb020b021,
    0xb022b023b024b025b026b027b029b02ab02bb02cb02db02eb02fb030b031b032,
    0xb033b034b035b036b037b038b039b03ab03bb03cb03db03eb03fb040b041b042,
    0xb043b046b047b049b04bb04db04fb050b051b052b056b058b05ab05bb05cb05e,
    0xb05fb060b061b062b063b064b065b066b067b068b069b06ab06bb06cb06db06e,
    0xb06fb070b071b072b073b074b075b076b077b078b079b07ab07bb07eb07fb081,
    0xb082b083b085b086b087b088b089b08ab08bb08eb090b092b093b094b095b096,
    0xb097b09bb09db09eb0a3b0a4b0a5b0a6b0a7b0aab0b0b0b2b0b6b0b7b0b9b0ba,
    0xb0bbb0bdb0beb0bfb0c0b0c1b0c2b0c3b0c6b0cab0cbb0ccb0cdb0ceb0cfb0d2,
    0x000000000000000000000000b0d3b0d5b0d6b0d7b0d9b0dab0dbb0dcb0ddb0de,
    0xb0dfb0e1b0e2b0e3b0e4b0e6b0e7b0e8b0e9b0eab0ebb0ecb0edb0eeb0efb0f0,
    0x000000000000000000000000b0f1b0f2b0f3b0f4b0f5b0f6b0f7b0f8b0f9b0fa,
    0xb0fbb0fcb0fdb0feb0ffb100b101b102b103b104b105b106b107b10ab10db10e,
    0xb10fb111b114b115b116b117b11ab11eb11fb120b121b122b126b127b129b12a,
    0xb12bb12db12eb12fb130b131b132b133b136b13ab13bb13cb13db13eb13fb142,
    0xb143b145b146b147b149b14ab14bb14cb14db14eb14fb152b153b156b157b159,
    0xb15ab15bb15db15eb15fb161b162b163b164b165b166b167b168b169b16ab16b,
    0xb16cb16db16eb16fb170b171b172b173b174b175b176b177b17ab17bb17db17e,
    0xb17fb181b183b184b185b186b187b18ab18cb18eb18fb190b191b195b196b197,
    0xb199b19ab19bb19db19eb19fb1a0b1a1b1a2b1a3b1a4b1a5b1a6b1a7b1a9b1aa,
    0xb1abb1acb1adb1aeb1afb1b0b1b1b1b2b1b3b1b4b1b5b1b6b1b7b1b800000000,
    0x0000000000000000b1b9b1bab1bbb1bcb1bdb1beb1bfb1c0b1c1b1c2b1c3b1c4,
    0xb1c5b1c6b1c7b1c8b1c9b1cab1cbb1cdb1ceb1cfb1d1b1d2b1d3b1d500000000,
    0x0000000000000000b1d6b1d7b1d8b1d9b1dab1dbb1deb1e0b1e1b1e2b1e3b1e4,
    0xb1e5b1e6b1e7b1eab1ebb1edb1eeb1efb1f1b1f2b1f3b1f4b1f5b1f6b1f7b1f8,
    0xb1fab1fcb1feb1ffb200b201b202b203b206b207b209b20ab20db20eb20fb210,
    0xb211b212b213b216b218b21ab21bb21cb21db21eb21fb221b222b223b224b225,
    0xb226b227b228b229b22ab22bb22cb22db22eb22fb230b231b232b233b235b236,
    0xb237b238b239b23ab23bb23db23eb23fb240b241b242b243b244b245b246b247,
    0xb248b249b24ab24bb24cb24db24eb24fb250b251b252b253b254b255b256b257,
    0xb259b25ab25bb25db25eb25fb261b262b263b264b265b266b267b26ab26bb26c,
    0xb26db26eb26fb270b271b272b273b276b277b278b279b27ab27bb27db27eb27f,
    0xb280b281b282b283b286b287b288b28ab28bb28cb28db28e0000000000000000,
    0x00000000b28fb292b293b295b296b297b29bb29cb29db29eb29fb2a2b2a4b2a7,
    0xb2a8b2a9b2abb2adb2aeb2afb2b1b2b2b2b3b2b5b2b6b2b70000000000000000,
    0x00000000b2b8b2b9b2bab2bbb2bcb2bdb2beb2bfb2c0b2c1b2c2b2c3b2c4b2c5,
    0xb2c6b2c7b2cab2cbb2cdb2ceb2cfb2d1b2d3b2d4b2d5b2d6b2d7b2dab2dcb2de,
    0xb2dfb2e0b2e1b2e3b2e7b2e9b2eab2f0b2f1b2f2b2f6b2fcb2fdb2feb302b303,
    0xb305b306b307b309b30ab30bb30cb30db30eb30fb312b316b317b318b319b31a,
    0xb31bb31db31eb31fb320b321b322b323b324b325b326b327b328b329b32ab32b,
    0xb32cb32db32eb32fb330b331b332b333b334b335b336b337b338b339b33ab33b,
    0xb33cb33db33eb33fb340b341b342b343b344b345b346b347b348b349b34ab34b,
    0xb34cb34db34eb34fb350b351b352b353b357b359b35ab35db360b361b362b363,
    0xb366b368b36ab36cb36db36fb372b373b375b376b377b379b37ab37bb37cb37d,
    0xb37eb37fb382b386b387b388b389b38ab38bb38d000000000000000000000000,
    0xb38eb38fb391b392b393b395b396b397b398b399b39ab39bb39cb39db39eb39f,
    0xb3a2b3a3b3a4b3a5b3a6b3a7b3a9b3aab3abb3ad000000000000000000000000,
    0xb3aeb3afb3b0b3b1b3b2b3b3b3b4b3b5b3b6b3b7b3b8b3b9b3bab3bbb3bcb3bd,
    0xb3beb3bfb3c0b3c1b3c2b3c3b3c6b3c7b3c9b3cab3cdb3cfb3d1b3d2b3d3b3d6,
    0xb3d8b3dab3dcb3deb3dfb3e1b3e2b3e3b3e5b3e6b3e7b3e9b3eab3ebb3ecb3ed,
    0xb3eeb3efb3f0b3f1b3f2b3f3b3f4b3f5b3f6b3f7b3f8b3f9b3fab3fbb3fdb3fe,
    0xb3ffb400b401b402b403b404b405b406b407b408b409b40ab40bb40cb40db40e,
    0xb40fb411b412b413b414b415b416b417b419b41ab41bb41db41eb41fb421b422,
    0xb423b424b425b426b427b42ab42cb42db42eb42fb430b431b432b433b435b436,
    0xb437b438b439b43ab43bb43cb43db43eb43fb440b441b442b443b444b445b446,
    0xb447b448b449b44ab44bb44cb44db44eb44fb452b453b455b456b457b459b45a,
    0xb45bb45cb45db45eb45fb462b464b466000000000000000000000000b467b468,
    0xb469b46ab46bb46db46eb46fb470b471b472b473b474b475b476b477b478b479,
    0xb47ab47bb47cb47db47eb47fb481b482000000000000000000000000b483b484,
    0xb485b486b487b489b48ab48bb48cb48db48eb48fb490b491b492b493b494b495,
    0xb496b497b498b499b49ab49bb49cb49eb49fb4a0b4a1b4a2b4a3b4a5b4a6b4a7,
    0xb4a9b4aab4abb4adb4aeb4afb4b0b4b1b4b2b4b3b4b4b4b6b4b8b4bab4bbb4bc,
    0xb4bdb4beb4bfb4c1b4c2b4c3b4c5b4c6b4c7b4c9b4cab4cbb4ccb4cdb4ceb4cf,
    0xb4d1b4d2b4d3b4d4b4d6b4d7b4d8b4d9b4dab4dbb4deb4dfb4e1b4e2b4e5b4e7,
    0xb4e8b4e9b4eab4ebb4eeb4f0b4f2b4f3b4f4b4f5b4f6b4f7b4f9b4fab4fbb4fc,
    0xb4fdb4feb4ffb500b501b502b503b504b505b506b507b508b509b50ab50bb50c,
    0xb50db50eb50fb510b511b512b513b516b517b519b51ab51db51eb51fb520b521,
    0xb522b523b526b52bb52cb52db52eb52fb532b533b535b536b537b539b53ab53b,
    0xb53cb53db53eb53fb542b546000000000000000000000000b547b548b549b54a,
    0xb54eb54fb551b552b553b555b556b557b558b559b55ab55bb55eb562b563b564,
    0xb565b566b567b568b569b56a000000000000000000000000b56bb56cb56db56e,
    0xb56fb570b571b572b573b574b575b576b577b578b579b57ab57bb57cb57db57e,
    0xb57fb580b581b582b583b584b585b586b587b588b589b58ab58bb58cb58db58e,
    0xb58fb590b591b592b593b594b595b596b597b598b599b59ab59bb59cb59db59e,
    0xb59fb5a2b5a3b5a5b5a6b5a7b5a9b5acb5adb5aeb5afb5b2b5b6b5b7b5b8b5b9,
    0xb5bab5beb5bfb5c1b5c2b5c3b5c5b5c6b5c7b5c8b5c9b5cab5cbb5ceb5d2b5d3,
    0xb5d4b5d5b5d6b5d7b5d9b5dab5dbb5dcb5ddb5deb5dfb5e0b5e1b5e2b5e3b5e4,
    0xb5e5b5e6b5e7b5e8b5e9b5eab5ebb5edb5eeb5efb5f0b5f1b5f2b5f3b5f4b5f5,
    0xb5f6b5f7b5f8b5f9b5fab5fbb5fcb5fdb5feb5ffb600b601b602b603b604b605,
    0xb606b607b608b609b60ab60bb60cb60db60eb60fb612b613b615b616b617b619,
    0xb61ab61bb61cb61d000000000000000000000000b61eb61fb620b621b622b623,
    0xb624b626b627b628b629b62ab62bb62db62eb62fb630b631b632b633b635b636,
    0xb637b638b639b63a000000000000000000000000b63bb63cb63db63eb63fb640,
    0xb641b642b643b644b645b646b647b649b64ab64bb64cb64db64eb64fb650b651,
    0xb652b653b654b655b656b657b658b659b65ab65bb65cb65db65eb65fb660b661,
    0xb662b663b665b666b667b669b66ab66bb66cb66db66eb66fb670b671b672b673,
    0xb674b675b676b677b678b679b67ab67bb67cb67db67eb67fb680b681b682b683,
    0xb684b685b686b687b688b689b68ab68bb68cb68db68eb68fb690b691b692b693,
    0xb694b695b696b697b698b699b69ab69bb69eb69fb6a1b6a2b6a3b6a5b6a6b6a7,
    0xb6a8b6a9b6aab6adb6aeb6afb6b0b6b2b6b3b6b4b6b5b6b6b6b7b6b8b6b9b6ba,
    0xb6bbb6bcb6bdb6beb6bfb6c0b6c1b6c2b6c3b6c4b6c5b6c6b6c7b6c8b6c9b6ca,
    0xb6cbb6ccb6cdb6ceb6cfb6d0b6d1b6d2b6d3b6d5b6d6b6d7b6d8b6d9b6dab6db,
    0xb6dcb6dd000000000000000000000000b6deb6dfb6e0b6e1b6e2b6e3b6e4b6e5,
    0xb6e6b6e7b6e8b6e9b6eab6ebb6ecb6edb6eeb6efb6f1b6f2b6f3b6f5b6f6b6f7,
    0xb6f9b6fa000000000000000000000000b6fbb6fcb6fdb6feb6ffb702b703b704,
    0xb706b707b708b709b70ab70bb70cb70db70eb70fb710b711b712b713b714b715,
    0xb716b717b718b719b71ab71bb71cb71db71eb71fb720b721b722b723b724b725,
    0xb726b727b72ab72bb72db72eb731b732b733b734b735b736b737b73ab73cb73d,
    0xb73eb73fb740b741b742b743b745b746b747b749b74ab74bb74db74eb74fb750,
    0xb751b752b753b756b757b758b759b75ab75bb75cb75db75eb75fb761b762b763,
    0xb765b766b767b769b76ab76bb76cb76db76eb76fb772b774b776b777b778b779,
    0xb77ab77bb77eb77fb781b782b783b785b786b787b788b789b78ab78bb78eb793,
    0xb794b795b79ab79bb79db79eb79fb7a1b7a2b7a3b7a4b7a5b7a6b7a7b7aab7ae,
    0xb7afb7b0b7b1b7b2b7b3b7b6b7b7b7b9b7bab7bbb7bcb7bdb7beb7bfb7c0b7c1,
    0x000000000000000000000000b7c2b7c3b7c4b7c5b7c6b7c8b7cab7cbb7ccb7cd,
    0xb7ceb7cfb7d0b7d1b7d2b7d3b7d4b7d5b7d6b7d7b7d8b7d9b7dab7dbb7dcb7dd,
    0x000000000000000000000000b7deb7dfb7e0b7e1b7e2b7e3b7e4b7e5b7e6b7e7,
    0xb7e8b7e9b7eab7ebb7eeb7efb7f1b7f2b7f3b7f5b7f6b7f7b7f8b7f9b7fab7fb,
    0xb7feb802b803b804b805b806b80ab80bb80db80eb80fb811b812b813b814b815,
    0xb816b817b81ab81cb81eb81fb820b821b822b823b826b827b829b82ab82bb82d,
    0xb82eb82fb830b831b832b833b836b83ab83bb83cb83db83eb83fb841b842b843,
    0xb845b846b847b848b849b84ab84bb84cb84db84eb84fb850b852b854b855b856,
    0xb857b858b859b85ab85bb85eb85fb861b862b863b865b866b867b868b869b86a,
    0xb86bb86eb870b872b873b874b875b876b877b879b87ab87bb87db87eb87fb880,
    0xb881b882b883b884b885b886b887b888b889b88ab88bb88cb88eb88fb890b891,
    0xb892b893b894b895b896b897b898b899b89ab89bb89cb89db89eb89f00000000,
    0x0000000000000000b8a0b8a1b8a2b8a3b8a4b8a5b8a6b8a7b8a9b8aab8abb8ac,
    0xb8adb8aeb8afb8b1b8b2b8b3b8b5b8b6b8b7b8b9b8bab8bbb8bcb8bd00000000,
    0x0000000000000000b8beb8bfb8c2b8c4b8c6b8c7b8c8b8c9b8cab8cbb8cdb8ce,
    0xb8cfb8d1b8d2b8d3b8d5b8d6b8d7b8d8b8d9b8dab8dbb8dcb8deb8e0b8e2b8e3,
    0xb8e4b8e5b8e6b8e7b8eab8ebb8edb8eeb8efb8f1b8f2b8f3b8f4b8f5b8f6b8f7,
    0xb8fab8fcb8feb8ffb900b901b902b903b905b906b907b908b909b90ab90bb90c,
    0xb90db90eb90fb910b911b912b913b914b915b916b917b919b91ab91bb91cb91d,
    0xb91eb91fb921b922b923b924b925b926b927b928b929b92ab92bb92cb92db92e,
    0xb92fb930b931b932b933b934b935b936b937b938b939b93ab93bb93eb93fb941,
    0xb942b943b945b946b947b948b949b94ab94bb94db94eb950b952b953b954b955,
    0xb956b957b95ab95bb95db95eb95fb961b962b963b964b965b966b967b96ab96c,
    0xb96eb96fb970b971b972b973b976b977b979b97ab97bb97d0000000000000000,
    0x00000000b97eb97fb980b981b982b983b986b988b98bb98cb98fb990b991b992,
    0xb993b994b995b996b997b998b999b99ab99bb99cb99db99e0000000000000000,
    0x00000000b99fb9a0b9a1b9a2b9a3b9a4b9a5b9a6b9a7b9a8b9a9b9aab9abb9ae,
    0xb9afb9b1b9b2b9b3b9b5b9b6b9b7b9b8b9b9b9bab9bbb9beb9c0b9c2b9c3b9c4,
    0xb9c5b9c6b9c7b9cab9cbb9cdb9d3b9d4b9d5b9d6b9d7b9dab9dcb9dfb9e0b9e2,
    0xb9e6b9e7b9e9b9eab9ebb9edb9eeb9efb9f0b9f1b9f2b9f3b9f6b9fbb9fcb9fd,
    0xb9feb9ffba02ba03ba04ba05ba06ba07ba09ba0aba0bba0cba0dba0eba0fba10,
    0xba11ba12ba13ba14ba16ba17ba18ba19ba1aba1bba1cba1dba1eba1fba20ba21,
    0xba22ba23ba24ba25ba26ba27ba28ba29ba2aba2bba2cba2dba2eba2fba30ba31,
    0xba32ba33ba34ba35ba36ba37ba3aba3bba3dba3eba3fba41ba43ba44ba45ba46,
    0xba47ba4aba4cba4fba50ba51ba52ba56ba57ba59ba5aba5bba5dba5eba5fba60,
    0xba61ba62ba63ba66ba6aba6bba6cba6dba6eba6f000000000000000000000000,
    0xba72ba73ba75ba76ba77ba79ba7aba7bba7cba7dba7eba7fba80ba81ba82ba86,
    0xba88ba89ba8aba8bba8dba8eba8fba90ba91ba92000000000000000000000000,
    0xba93ba94ba95ba96ba97ba98ba99ba9aba9bba9cba9dba9eba9fbaa0baa1baa2,
    0xbaa3baa4baa5baa6baa7baaabaadbaaebaafbab1bab3bab4bab5bab6bab7baba,
    0xbabcbabebabfbac0bac1bac2bac3bac5bac6bac7bac9bacabacbbaccbacdbace,
    0xbacfbad0bad1bad2bad3bad4bad5bad6bad7badabadbbadcbaddbadebadfbae0,
    0xbae1bae2bae3bae4bae5bae6bae7bae8bae9baeabaebbaecbaedbaeebaefbaf0,
    0xbaf1baf2baf3baf4baf5baf6baf7baf8baf9bafabafbbafdbafebaffbb01bb02,
    0xbb03bb05bb06bb07bb08bb09bb0abb0bbb0cbb0ebb10bb12bb13bb14bb15bb16,
    0xbb17bb19bb1abb1bbb1dbb1ebb1fbb21bb22bb23bb24bb25bb26bb27bb28bb2a,
    0xbb2cbb2dbb2ebb2fbb30bb31bb32bb33bb37bb39bb3abb3fbb40bb41bb42bb43,
    0xbb46bb48bb4abb4bbb4cbb4ebb51bb52000000000000000000000000bb53bb55,
    0xbb56bb57bb59bb5abb5bbb5cbb5dbb5ebb5fbb60bb62bb64bb65bb66bb67bb68,
    0xbb69bb6abb6bbb6dbb6ebb6fbb70bb71000000000000000000000000bb72bb73,
    0xbb74bb75bb76bb77bb78bb79bb7abb7bbb7cbb7dbb7ebb7fbb80bb81bb82bb83,
    0xbb84bb85bb86bb87bb89bb8abb8bbb8dbb8ebb8fbb91bb92bb93bb94bb95bb96,
    0xbb97bb98bb99bb9abb9bbb9cbb9dbb9ebb9fbba0bba1bba2bba3bba5bba6bba7,
    0xbba9bbaabbabbbadbbaebbafbbb0bbb1bbb2bbb3bbb5bbb6bbb8bbb9bbbabbbb,
    0xbbbcbbbdbbbebbbfbbc1bbc2bbc3bbc5bbc6bbc7bbc9bbcabbcbbbccbbcdbbce,
    0xbbcfbbd1bbd2bbd4bbd5bbd6bbd7bbd8bbd9bbdabbdbbbdcbbddbbdebbdfbbe0,
    0xbbe1bbe2bbe3bbe4bbe5bbe6bbe7bbe8bbe9bbeabbebbbecbbedbbeebbefbbf0,
    0xbbf1bbf2bbf3bbf4bbf5bbf6bbf7bbfabbfbbbfdbbfebc01bc03bc04bc05bc06,
    0xbc07bc0abc0ebc10bc12bc13bc19bc1abc20bc21bc22bc23bc26bc28bc2abc2b,
    0xbc2cbc2ebc2fbc32bc33bc35000000000000000000000000bc36bc37bc39bc3a,
    0xbc3bbc3cbc3dbc3ebc3fbc42bc46bc47bc48bc4abc4bbc4ebc4fbc51bc52bc53,
    0xbc54bc55bc56bc57bc58bc59000000000000000000000000bc5abc5bbc5cbc5e,
    0xbc5fbc60bc61bc62bc63bc64bc65bc66bc67bc68bc69bc6abc6bbc6cbc6dbc6e,
    0xbc6fbc70bc71bc72bc73bc74bc75bc76bc77bc78bc79bc7abc7bbc7cbc7dbc7e,
    0xbc7fbc80bc81bc82bc83bc86bc87bc89bc8abc8dbc8fbc90bc91bc92bc93bc96,
    0xbc98bc9bbc9cbc9dbc9ebc9fbca2bca3bca5bca6bca9bcaabcabbcacbcadbcae,
    0xbcafbcb2bcb6bcb7bcb8bcb9bcbabcbbbcbebcbfbcc1bcc2bcc3bcc5bcc6bcc7,
    0xbcc8bcc9bccabccbbcccbccebcd2bcd3bcd4bcd6bcd7bcd9bcdabcdbbcddbcde,
    0xbcdfbce0bce1bce2bce3bce4bce5bce6bce7bce8bce9bceabcebbcecbcedbcee,
    0xbcefbcf0bcf1bcf2bcf3bcf7bcf9bcfabcfbbcfdbcfebcffbd00bd01bd02bd03,
    0xbd06bd08bd0abd0bbd0cbd0dbd0ebd0fbd11bd12bd13bd15bd16bd17bd18bd19,
    0xbd1abd1bbd1cbd1d000000000000000000000000bd1ebd1fbd20bd21bd22bd23,
    0xbd25bd26bd27bd28bd29bd2abd2bbd2dbd2ebd2fbd30bd31bd32bd33bd34bd35,
    0xbd36bd37bd38bd39000000000000000000000000bd3abd3bbd3cbd3dbd3ebd3f,
    0xbd41bd42bd43bd44bd45bd46bd47bd4abd4bbd4dbd4ebd4fbd51bd52bd53bd54,
    0xbd55bd56bd57bd5abd5bbd5cbd5dbd5ebd5fbd60bd61bd62bd63bd65bd66bd67,
    0xbd69bd6abd6bbd6cbd6dbd6ebd6fbd70bd71bd72bd73bd74bd75bd76bd77bd78,
    0xbd79bd7abd7bbd7cbd7dbd7ebd7fbd82bd83bd85bd86bd8bbd8cbd8dbd8ebd8f,
    0xbd92bd94bd96bd97bd98bd9bbd9dbd9ebd9fbda0bda1bda2bda3bda5bda6bda7,
    0xbda8bda9bdaabdabbdacbdadbdaebdafbdb1bdb2bdb3bdb4bdb5bdb6bdb7bdb9,
    0xbdbabdbbbdbcbdbdbdbebdbfbdc0bdc1bdc2bdc3bdc4bdc5bdc6bdc7bdc8bdc9,
    0xbdcabdcbbdccbdcdbdcebdcfbdd0bdd1bdd2bdd3bdd6bdd7bdd9bddabddbbddd,
    0xbddebddfbde0bde1bde2bde3bde4bde5bde6bde7bde8bdeabdebbdecbdedbdee,
    0xbdefbdf1000000000000000000000000bdf2bdf3bdf5bdf6bdf7bdf9bdfabdfb,
    0xbdfcbdfdbdfebdffbe01be02be04be06be07be08be09be0abe0bbe0ebe0fbe11,
    0xbe12be13000000000000000000000000be15be16be17be18be19be1abe1bbe1e,
    0xbe20be21be22be23be24be25be26be27be28be29be2abe2bbe2cbe2dbe2ebe2f,
    0xbe30be31be32be33be34be35be36be37be38be39be3abe3bbe3cbe3dbe3ebe3f,
    0xbe40be41be42be43be46be47be49be4abe4bbe4dbe4fbe50be51be52be53be56,
    0xbe58be5cbe5dbe5ebe5fbe62be63be65be66be67be69be6bbe6cbe6dbe6ebe6f,
    0xbe72be76be77be78be79be7abe7ebe7fbe81be82be83be85be86be87be88be89,
    0xbe8abe8bbe8ebe92be93be94be95be96be97be9abe9bbe9cbe9dbe9ebe9fbea0,
    0xbea1bea2bea3bea4bea5bea6bea7bea9beaabeabbeacbeadbeaebeafbeb0beb1,
    0xbeb2beb3beb4beb5beb6beb7beb8beb9bebabebbbebcbebdbebebebfbec0bec1,
    0xbec2bec3bec4bec5bec6bec7bec8bec9becabecbbeccbecdbecebecfbed2bed3,
    0x000000000000000000000000bed5bed6bed9bedabedbbedcbeddbedebedfbee1,
    0xbee2bee6bee7bee8bee9beeabeebbeedbeeebeefbef0bef1bef2bef3bef4bef5,
    0x000000000000000000000000bef6bef7bef8bef9befabefbbefcbefdbefebeff,
    0xbf00bf02bf03bf04bf05bf06bf07bf0abf0bbf0cbf0dbf0ebf0fbf10bf11bf12,
    0xbf13bf14bf15bf16bf17bf1abf1ebf1fbf20bf21bf22bf23bf24bf25bf26bf27,
    0xbf28bf29bf2abf2bbf2cbf2dbf2ebf2fbf30bf31bf32bf33bf34bf35bf36bf37,
    0xbf38bf39bf3abf3bbf3cbf3dbf3ebf3fbf42bf43bf45bf46bf47bf49bf4abf4b,
    0xbf4cbf4dbf4ebf4fbf52bf53bf54bf56bf57bf58bf59bf5abf5bbf5cbf5dbf5e,
    0xbf5fbf60bf61bf62bf63bf64bf65bf66bf67bf68bf69bf6abf6bbf6cbf6dbf6e,
    0xbf6fbf70bf71bf72bf73bf74bf75bf76bf77bf78bf79bf7abf7bbf7cbf7dbf7e,
    0xbf7fbf80bf81bf82bf83bf84bf85bf86bf87bf88bf89bf8abf8bbf8cbf8dbf8e,
    0xbf8fbf90bf91bf92bf93bf95bf96bf97bf98bf99bf9abf9bbf9cbf9d00000000,
    0x0000000000000000bf9ebf9fbfa0bfa1bfa2bfa3bfa4bfa5bfa6bfa7bfa8bfa9,
    0xbfaabfabbfacbfadbfaebfafbfb1bfb2bfb3bfb4bfb5bfb6bfb7bfb800000000,
    0x0000000000000000bfb9bfbabfbbbfbcbfbdbfbebfbfbfc0bfc1bfc2bfc3bfc4,
    0xbfc6bfc7bfc8bfc9bfcabfcbbfcebfcfbfd1bfd2bfd3bfd5bfd6bfd7bfd8bfd9,
    0xbfdabfdbbfddbfdebfe0bfe2bfe3bfe4bfe5bfe6bfe7bfe8bfe9bfeabfebbfec,
    0xbfedbfeebfefbff0bff1bff2bff3bff4bff5bff6bff7bff8bff9bffabffbbffc,
    0xbffdbffebfffc000c001c002c003c004c005c006c007c008c009c00ac00bc00c,
    0xc00dc00ec00fc010c011c012c013c014c015c016c017c018c019c01ac01bc01c,
    0xc01dc01ec01fc020c021c022c023c024c025c026c027c028c029c02ac02bc02c,
    0xc02dc02ec02fc030c031c032c033c034c035c036c037c038c039c03ac03bc03d,
    0xc03ec03fc040c041c042c043c044c045c046c047c048c049c04ac04bc04cc04d,
    0xc04ec04fc050c052c053c054c055c056c057c059c05ac05b0000000000000000,
    0x00000000c05dc05ec05fc061c062c063c064c065c066c067c06ac06bc06cc06d,
    0xc06ec06fc070c071c072c073c074c075c076c077c078c0790000000000000000,
    0x00000000c07ac07bc07cc07dc07ec07fc080c081c082c083c084c085c086c087,
    0xc088c089c08ac08bc08cc08dc08ec08fc092c093c095c096c097c099c09ac09b,
    0xc09cc09dc09ec09fc0a2c0a4c0a6c0a7c0a8c0a9c0aac0abc0aec0b1c0b2c0b7,
    0xc0b8c0b9c0bac0bbc0bec0c2c0c3c0c4c0c6c0c7c0cac0cbc0cdc0cec0cfc0d1,
    0xc0d2c0d3c0d4c0d5c0d6c0d7c0dac0dec0dfc0e0c0e1c0e2c0e3c0e6c0e7c0e9,
    0xc0eac0ebc0edc0eec0efc0f0c0f1c0f2c0f3c0f6c0f8c0fac0fbc0fcc0fdc0fe,
    0xc0ffc101c102c103c105c106c107c109c10ac10bc10cc10dc10ec10fc111c112,
    0xc113c114c116c117c118c119c11ac11bc121c122c125c128c129c12ac12bc12e,
    0xc132c133c134c135c137c13ac13bc13dc13ec13fc141c142c143c144c145c146,
    0xc147c14ac14ec14fc150c151c152c153c156c157000000000000000000000000,
    0xc159c15ac15bc15dc15ec15fc160c161c162c163c166c16ac16bc16cc16dc16e,
    0xc16fc171c172c173c175c176c177c179c17ac17b000000000000000000000000,
    0xc17cc17dc17ec17fc180c181c182c183c184c186c187c188c189c18ac18bc18f,
    0xc191c192c193c195c197c198c199c19ac19bc19ec1a0c1a2c1a3c1a4c1a6c1a7,
    0xc1aac1abc1adc1aec1afc1b1c1b2c1b3c1b4c1b5c1b6c1b7c1b8c1b9c1bac1bb,
    0xc1bcc1bec1bfc1c0c1c1c1c2c1c3c1c5c1c6c1c7c1c9c1cac1cbc1cdc1cec1cf,
    0xc1d0c1d1c1d2c1d3c1d5c1d6c1d9c1dac1dbc1dcc1ddc1dec1dfc1e1c1e2c1e3,
    0xc1e5c1e6c1e7c1e9c1eac1ebc1ecc1edc1eec1efc1f2c1f4c1f5c1f6c1f7c1f8,
    0xc1f9c1fac1fbc1fec1ffc201c202c203c205c206c207c208c209c20ac20bc20e,
    0xc210c212c213c214c215c216c217c21ac21bc21dc21ec221c222c223c224c225,
    0xc226c227c22ac22cc22ec230c233c235c236c237c238c239c23ac23bc23cc23d,
    0xc23ec23fc240c241c242c243c244c245000000000000000000000000c246c247,
    0xc249c24ac24bc24cc24dc24ec24fc252c253c255c256c257c259c25ac25bc25c,
    0xc25dc25ec25fc261c262c263c264c266000000000000000000000000c267c268,
    0xc269c26ac26bc26ec26fc271c272c273c275c276c277c278c279c27ac27bc27e,
    0xc280c282c283c284c285c286c287c28ac28bc28cc28dc28ec28fc291c292c293,
    0xc294c295c296c297c299c29ac29cc29ec29fc2a0c2a1c2a2c2a3c2a6c2a7c2a9,
    0xc2aac2abc2aec2afc2b0c2b1c2b2c2b3c2b6c2b8c2bac2bbc2bcc2bdc2bec2bf,
    0xc2c0c2c1c2c2c2c3c2c4c2c5c2c6c2c7c2c8c2c9c2cac2cbc2ccc2cdc2cec2cf,
    0xc2d0c2d1c2d2c2d3c2d4c2d5c2d6c2d7c2d8c2d9c2dac2dbc2dec2dfc2e1c2e2,
    0xc2e5c2e6c2e7c2e8c2e9c2eac2eec2f0c2f2c2f3c2f4c2f5c2f7c2fac2fdc2fe,
    0xc2ffc301c302c303c304c305c306c307c30ac30bc30ec30fc310c311c312c316,
    0xc317c319c31ac31bc31dc31ec31fc320c321c322c323c326c327c32ac32bc32c,
    0xc32dc32ec32fc330c331c332000000000000000000000000c333c334c335c336,
    0xc337c338c339c33ac33bc33cc33dc33ec33fc340c341c342c343c344c346c347,
    0xc348c349c34ac34bc34cc34d000000000000000000000000c34ec34fc350c351,
    0xc352c353c354c355c356c357c358c359c35ac35bc35cc35dc35ec35fc360c361,
    0xc362c363c364c365c366c367c36ac36bc36dc36ec36fc371c373c374c375c376,
    0xc377c37ac37bc37ec37fc380c381c382c383c385c386c387c389c38ac38bc38d,
    0xc38ec38fc390c391c392c393c394c395c396c397c398c399c39ac39bc39cc39d,
    0xc39ec39fc3a0c3a1c3a2c3a3c3a4c3a5c3a6c3a7c3a8c3a9c3aac3abc3acc3ad,
    0xc3aec3afc3b0c3b1c3b2c3b3c3b4c3b5c3b6c3b7c3b8c3b9c3bac3bbc3bcc3bd,
    0xc3bec3bfc3c1c3c2c3c3c3c4c3c5c3c6c3c7c3c8c3c9c3cac3cbc3ccc3cdc3ce,
    0xc3cfc3d0c3d1c3d2c3d3c3d4c3d5c3d6c3d7c3dac3dbc3ddc3dec3e1c3e3c3e4,
    0xc3e5c3e6c3e7c3eac3ebc3ecc3eec3efc3f0c3f1c3f2c3f3c3f6c3f7c3f9c3fa,
    0xc3fbc3fcc3fdc3fe000000000000000000000000c3ffc400c401c402c403c404,
    0xc405c406c407c409c40ac40bc40cc40dc40ec40fc411c412c413c414c415c416,
    0xc417c418c419c41a000000000000000000000000c41bc41cc41dc41ec41fc420,
    0xc421c422c423c425c426c427c428c429c42ac42bc42dc42ec42fc431c432c433,
    0xc435c436c437c438c439c43ac43bc43ec43fc440c441c442c443c444c445c446,
    0xc447c449c44ac44bc44cc44dc44ec44fc450c451c452c453c454c455c456c457,
    0xc458c459c45ac45bc45cc45dc45ec45fc460c461c462c463c466c467c469c46a,
    0xc46bc46dc46ec46fc470c471c472c473c476c477c478c47ac47bc47cc47dc47e,
    0xc47fc481c482c483c484c485c486c487c488c489c48ac48bc48cc48dc48ec48f,
    0xc490c491c492c493c495c496c497c498c499c49ac49bc49dc49ec49fc4a0c4a1,
    0xc4a2c4a3c4a4c4a5c4a6c4a7c4a8c4a9c4aac4abc4acc4adc4aec4afc4b0c4b1,
    0xc4b2c4b3c4b4c4b5c4b6c4b7c4b9c4bac4bbc4bdc4bec4bfc4c0c4c1c4c2c4c3,
    0xc4c4c4c5000000000000000000000000c4c6c4c7c4c8c4c9c4cac4cbc4ccc4cd,
    0xc4cec4cfc4d0c4d1c4d2c4d3c4d4c4d5c4d6c4d7c4d8c4d9c4dac4dbc4dcc4dd,
    0xc4dec4df000000000000000000000000c4e0c4e1c4e2c4e3c4e4c4e5c4e6c4e7,
    0xc4e8c4eac4ebc4ecc4edc4eec4efc4f2c4f3c4f5c4f6c4f7c4f9c4fbc4fcc4fd,
    0xc4fec502c503c504c505c506c507c508c509c50ac50bc50dc50ec50fc511c512,
    0xc513c515c516c517c518c519c51ac51bc51dc51ec51fc520c521c522c523c524,
    0xc525c526c527c52ac52bc52dc52ec52fc531c532c533c534c535c536c537c53a,
    0xc53cc53ec53fc540c541c542c543c546c547c54bc54fc550c551c552c556c55a,
    0xc55bc55cc55fc562c563c565c566c567c569c56ac56bc56cc56dc56ec56fc572,
    0xc576c577c578c579c57ac57bc57ec57fc581c582c583c585c586c588c589c58a,
    0xc58bc58ec590c592c593c594c596c599c59ac59bc59dc59ec59fc5a1c5a2c5a3,
    0xc5a4c5a5c5a6c5a7c5a8c5aac5abc5acc5adc5aec5afc5b0c5b1c5b2c5b3c5b6,
    0x000000000000000000000000c5b7c5bac5bfc5c0c5c1c5c2c5c3c5cbc5cdc5cf,
    0xc5d2c5d3c5d5c5d6c5d7c5d9c5dac5dbc5dcc5ddc5dec5dfc5e2c5e4c5e6c5e7,
    0x000000000000000000000000c5e8c5e9c5eac5ebc5efc5f1c5f2c5f3c5f5c5f8,
    0xc5f9c5fac5fbc602c603c604c609c60ac60bc60dc60ec60fc611c612c613c614,
    0xc615c616c617c61ac61dc61ec61fc620c621c622c623c626c627c629c62ac62b,
    0xc62fc631c632c636c638c63ac63cc63dc63ec63fc642c643c645c646c647c649,
    0xc64ac64bc64cc64dc64ec64fc652c656c657c658c659c65ac65bc65ec65fc661,
    0xc662c663c664c665c666c667c668c669c66ac66bc66dc66ec670c672c673c674,
    0xc675c676c677c67ac67bc67dc67ec67fc681c682c683c684c685c686c687c68a,
    0xc68cc68ec68fc690c691c692c693c696c697c699c69ac69bc69dc69ec69fc6a0,
    0xc6a1c6a2c6a3c6a6c6a8c6aac6abc6acc6adc6aec6afc6b2c6b3c6b5c6b6c6b7,
    0xc6bbc6bcc6bdc6bec6bfc6c2c6c4c6c6c6c7c6c8c6c9c6cac6cbc6ce00000000,
    0x0000000000000000c6cfc6d1c6d2c6d3c6d5c6d6c6d7c6d8c6d9c6dac6dbc6de,
    0xc6dfc6e2c6e3c6e4c6e5c6e6c6e7c6eac6ebc6edc6eec6efc6f1c6f200000000,
    0x0000000000000000c6f3c6f4c6f5c6f6c6f7c6fac6fbc6fcc6fec6ffc700c701,
    0xc702c703c706c707c709c70ac70bc70dc70ec70fc710c711c712c713c716c718,
    0xc71ac71bc71cc71dc71ec71fc722c723c725c726c727c729c72ac72bc72cc72d,
    0xc72ec72fc732c734c736c738c739c73ac73bc73ec73fc741c742c743c745c746,
    0xc747c748c749c74bc74ec750c759c75ac75bc75dc75ec75fc761c762c763c764,
    0xc765c766c767c769c76ac76cc76dc76ec76fc770c771c772c773c776c777c779,
    0xc77ac77bc77fc780c781c782c786c78bc78cc78dc78fc792c793c795c799c79b,
    0xc79cc79dc79ec79fc7a2c7a7c7a8c7a9c7aac7abc7aec7afc7b1c7b2c7b3c7b5,
    0xc7b6c7b7c7b8c7b9c7bac7bbc7bec7c2c7c3c7c4c7c5c7c6c7c7c7cac7cbc7cd,
    0xc7cfc7d1c7d2c7d3c7d4c7d5c7d6c7d7c7d9c7dac7dbc7dc0000000000000000,
    0x00000000c7dec7dfc7e0c7e1c7e2c7e3c7e5c7e6c7e7c7e9c7eac7ebc7edc7ee,
    0xc7efc7f0c7f1c7f2c7f3c7f4c7f5c7f6c7f7c7f8c7f9c7fa0000000000000000,
    0x00000000c7fbc7fcc7fdc7fec7ffc802c803c805c806c807c809c80bc80cc80d,
    0xc80ec80fc812c814c817c818c819c81ac81bc81ec81fc821c822c823c825c826,
    0xc827c828c829c82ac82bc82ec830c832c833c834c835c836c837c839c83ac83b,
    0xc83dc83ec83fc841c842c843c844c845c846c847c84ac84bc84ec84fc850c851,
    0xc852c853c855c856c857c858c859c85ac85bc85cc85dc85ec85fc860c861c862,
    0xc863c864c865c866c867c868c869c86ac86bc86cc86dc86ec86fc872c873c875,
    0xc876c877c879c87bc87cc87dc87ec87fc882c884c888c889c88ac88ec88fc890,
    0xc891c892c893c895c896c897c898c899c89ac89bc89cc89ec8a0c8a2c8a3c8a4,
    0xc8a5c8a6c8a7c8a9c8aac8abc8acc8adc8aec8afc8b0c8b1c8b2c8b3c8b4c8b5,
    0xc8b6c8b7c8b8c8b9c8bac8bbc8bec8bfc8c0c8c1000000000000000000000000,
    0xc8c2c8c3c8c5c8c6c8c7c8c9c8cac8cbc8cdc8cec8cfc8d0c8d1c8d2c8d3c8d6,
    0xc8d8c8dac8dbc8dcc8ddc8dec8dfc8e2c8e3c8e5000000000000000000000000,
    0xc8e6c8e7c8e8c8e9c8eac8ebc8ecc8edc8eec8efc8f0c8f1c8f2c8f3c8f4c8f6,
    0xc8f7c8f8c8f9c8fac8fbc8fec8ffc901c902c903c907c908c909c90ac90bc90e,
    0x30003001300200b72025202600a8300300ad20152225ff3c223c20182019201c,
    0x201d3014301530083009300a300b300c300d300e300f3010301100b100d700f7,
    0x226022642265221e223400b0203220332103212bffe0ffe1ffe5264226402220,
    0x22a52312220222072261225200a7203b2606260525cb25cf25ce25c725c625a1,
    0x25a025b325b225bd25bc219221902191219321943013226a226b221a223d221d,
    0x2235222b222c2208220b2286228722822283222a222922272228ffe2c910c912,
    0xc913c914c915c916c917c919c91ac91bc91cc91dc91ec91fc920c921c922c923,
    0xc924c925c926c927c928c929c92ac92b000000000000000000000000c92dc92e,
    0xc92fc930c931c932c933c935c936c937c938c939c93ac93bc93cc93dc93ec93f,
    0xc940c941c942c943c944c945c946c947000000000000000000000000c948c949,
    0xc94ac94bc94cc94dc94ec94fc952c953c955c956c957c959c95ac95bc95cc95d,
    0xc95ec95fc962c964c965c966c967c968c969c96ac96bc96dc96ec96f21d221d4,
    0x2200220300b4ff5e02c702d802dd02da02d900b802db00a100bf02d0222e2211,
    0x220f00a42109203025c125c025b725b6266426602661266526672663229925c8,
    0x25a325d025d1259225a425a525a825a725a625a92668260f260e261c261e00b6,
    0x2020202121952197219921962198266d2669266a266c327f321c211633c72122,
    0x33c233d8212120ac00ae00000000000000000000000000000000000000000000,
    0x000000000000000000000000000000000000000000000000c971c972c973c975,
    0xc976c977c978c979c97ac97bc97dc97ec97fc980c981c982c983c984c985c986,
    0xc987c98ac98bc98dc98ec98f000000000000000000000000c991c992c993c994,
    0xc995c996c997c99ac99cc99ec99fc9a0c9a1c9a2c9a3c9a4c9a5c9a6c9a7c9a8,
    0xc9a9c9aac9abc9acc9adc9ae000000000000000000000000c9afc9b0c9b1c9b2,
    0xc9b3c9b4c9b5c9b6c9b7c9b8c9b9c9bac9bbc9bcc9bdc9bec9bfc9c2c9c3c9c5,
    0xc9c6c9c9c9cbc9ccc9cdc9cec9cfc9d2c9d4c9d7c9d8c9dbff01ff02ff03ff04,
    0xff05ff06ff07ff08ff09ff0aff0bff0cff0dff0eff0fff10ff11ff12ff13ff14,
    0xff15ff16ff17ff18ff19ff1aff1bff1cff1dff1eff1fff20ff21ff22ff23ff24,
    0xff25ff26ff27ff28ff29ff2aff2bff2cff2dff2eff2fff30ff31ff32ff33ff34,
    0xff35ff36ff37ff38ff39ff3aff3bffe6ff3dff3eff3fff40ff41ff42ff43ff44,
    0xff45ff46ff47ff48ff49ff4aff4bff4cff4dff4eff4fff50ff51ff52ff53ff54,
    0xff55ff56ff57ff58ff59ff5aff5bff5cff5dffe3c9dec9dfc9e1c9e3c9e5c9e6,
    0xc9e8c9e9c9eac9ebc9eec9f2c9f3c9f4c9f5c9f6c9f7c9fac9fbc9fdc9fec9ff,
    0xca01ca02ca03ca04000000000000000000000000ca05ca06ca07ca0aca0eca0f,
    0xca10ca11ca12ca13ca15ca16ca17ca19ca1aca1bca1cca1dca1eca1fca20ca21,
    0xca22ca23ca24ca25000000000000000000000000ca26ca27ca28ca2aca2bca2c,
    0xca2dca2eca2fca30ca31ca32ca33ca34ca35ca36ca37ca38ca39ca3aca3bca3c,
    0xca3dca3eca3fca40ca41ca42ca43ca44ca45ca46313131323133313431353136,
    0x313731383139313a313b313c313d313e313f3140314131423143314431453146,
    0x314731483149314a314b314c314d314e314f3150315131523153315431553156,
    0x315731583159315a315b315c315d315e315f3160316131623163316431653166,
    0x316731683169316a316b316c316d316e316f3170317131723173317431753176,
    0x317731783179317a317b317c317d317e317f3180318131823183318431853186,
    0x318731883189318a318b318c318d318eca47ca48ca49ca4aca4bca4eca4fca51,
    0xca52ca53ca55ca56ca57ca58ca59ca5aca5bca5eca62ca63ca64ca65ca66ca67,
    0xca69ca6a000000000000000000000000ca6bca6cca6dca6eca6fca70ca71ca72,
    0xca73ca74ca75ca76ca77ca78ca79ca7aca7bca7cca7eca7fca80ca81ca82ca83,
    0xca85ca86000000000000000000000000ca87ca88ca89ca8aca8bca8cca8dca8e,
    0xca8fca90ca91ca92ca93ca94ca95ca96ca97ca99ca9aca9bca9cca9dca9eca9f,
    0xcaa0caa1caa2caa3caa4caa5caa6caa721702171217221732174217521762177,
    0x2178217900000000000000000000216021612162216321642165216621672168,
    0x2169000000000000000000000000000003910392039303940395039603970398,
    0x0399039a039b039c039d039e039f03a003a103a303a403a503a603a703a803a9,
    0x0000000000000000000000000000000003b103b203b303b403b503b603b703b8,
    0x03b903ba03bb03bc03bd03be03bf03c003c103c303c403c503c603c703c803c9,
    0x000000000000000000000000caa8caa9caaacaabcaaccaadcaaecaafcab0cab1,
    0xcab2cab3cab4cab5cab6cab7cab8cab9cabacabbcabecabfcac1cac2cac3cac5,
    0x000000000000000000000000cac6cac7cac8cac9cacacacbcacecad0cad2cad4,
    0xcad5cad6cad7cadacadbcadccaddcadecadfcae1cae2cae3cae4cae5cae6cae7,
    0x000000000000000000000000cae8cae9caeacaebcaedcaeecaefcaf0caf1caf2,
    0xcaf3caf5caf6caf7caf8caf9cafacafbcafccafdcafecaffcb00cb01cb02cb03,
    0xcb04cb05cb06cb07cb09cb0a25002502250c251025182514251c252c25242534,
    0x253c25012503250f2513251b251725232533252b253b254b2520252f25282537,
    0x253f251d253025252538254225122511251a251925162515250e250d251e251f,
    0x25212522252625272529252a252d252e25312532253525362539253a253d253e,
    0x254025412543254425452546254725482549254a000000000000000000000000,
    0,
    0x0000000000000000cb0bcb0ccb0dcb0ecb0fcb11cb12cb13cb15cb16cb17cb19,
    0xcb1acb1bcb1ccb1dcb1ecb1fcb22cb23cb24cb25cb26cb27cb28cb2900000000,
    0x0000000000000000cb2acb2bcb2ccb2dcb2ecb2fcb30cb31cb32cb33cb34cb35,
    0xcb36cb37cb38cb39cb3acb3bcb3ccb3dcb3ecb3fcb40cb42cb43cb4400000000,
    0x0000000000000000cb45cb46cb47cb4acb4bcb4dcb4ecb4fcb51cb52cb53cb54,
    0xcb55cb56cb57cb5acb5bcb5ccb5ecb5fcb60cb61cb62cb63cb65cb66cb67cb68,
    0xcb69cb6acb6bcb6c3395339633972113339833c433a333a433a533a63399339a,
    0x339b339c339d339e339f33a033a133a233ca338d338e338f33cf3388338933c8,
    0x33a733a833b033b133b233b333b433b533b633b733b833b93380338133823383,
    0x338433ba33bb33bc33bd33be33bf33903391339233933394212633c033c1338a,
    0x338b338c33d633c533ad33ae33af33db33a933aa33ab33ac33dd33d033d333c3,
    0x33c933dc33c60000000000000000000000000000000000000000000000000000,
    0x00000000cb6dcb6ecb6fcb70cb71cb72cb73cb74cb75cb76cb77cb7acb7bcb7c,
    0xcb7dcb7ecb7fcb80cb81cb82cb83cb84cb85cb86cb87cb880000000000000000,
    0x00000000cb89cb8acb8bcb8ccb8dcb8ecb8fcb90cb91cb92cb93cb94cb95cb96,
    0xcb97cb98cb99cb9acb9bcb9dcb9ecb9fcba0cba1cba2cba30000000000000000,
    0x00000000cba4cba5cba6cba7cba8cba9cbaacbabcbaccbadcbaecbafcbb0cbb1,
    0xcbb2cbb3cbb4cbb5cbb6cbb7cbb9cbbacbbbcbbccbbdcbbecbbfcbc0cbc1cbc2,
    0xcbc3cbc400c600d000aa0126000001320000013f014100d8015200ba00de0166,
    0x014a00003260326132623263326432653266326732683269326a326b326c326d,
    0x326e326f3270327132723273327432753276327732783279327a327b24d024d1,
    0x24d224d324d424d524d624d724d824d924da24db24dc24dd24de24df24e024e1,
    0x24e224e324e424e524e624e724e824e924602461246224632464246524662467,
    0x24682469246a246b246c246d246e00bd2153215400bc00be215b215c215d215e,
    0xcbc5cbc6cbc7cbc8cbc9cbcacbcbcbcccbcdcbcecbcfcbd0cbd1cbd2cbd3cbd5,
    0xcbd6cbd7cbd8cbd9cbdacbdbcbdccbddcbdecbdf000000000000000000000000,
    0xcbe0cbe1cbe2cbe3cbe5cbe6cbe8cbeacbebcbeccbedcbeecbefcbf0cbf1cbf2,
    0xcbf3cbf4cbf5cbf6cbf7cbf8cbf9cbfacbfbcbfc000000000000000000000000,
    0xcbfdcbfecbffcc00cc01cc02cc03cc04cc05cc06cc07cc08cc09cc0acc0bcc0e,
    0xcc0fcc11cc12cc13cc15cc16cc17cc18cc19cc1acc1bcc1ecc1fcc20cc23cc24,
    0x00e6011100f001270131013301380140014200f8015300df00fe0167014b0149,
    0x3200320132023203320432053206320732083209320a320b320c320d320e320f,
    0x3210321132123213321432153216321732183219321a321b249c249d249e249f,
    0x24a024a124a224a324a424a524a624a724a824a924aa24ab24ac24ad24ae24af,
    0x24b024b124b224b324b424b5247424752476247724782479247a247b247c247d,
    0x247e247f24802481248200b900b200b32074207f2081208220832084cc25cc26,
    0xcc2acc2bcc2dcc2fcc31cc32cc33cc34cc35cc36cc37cc3acc3fcc40cc41cc42,
    0xcc43cc46cc47cc49cc4acc4bcc4dcc4e000000000000000000000000cc4fcc50,
    0xcc51cc52cc53cc56cc5acc5bcc5ccc5dcc5ecc5fcc61cc62cc63cc65cc67cc69,
    0xcc6acc6bcc6ccc6dcc6ecc6fcc71cc72000000000000000000000000cc73cc74,
    0xcc76cc77cc78cc79cc7acc7bcc7ccc7dcc7ecc7fcc80cc81cc82cc83cc84cc85,
    0xcc86cc87cc88cc89cc8acc8bcc8ccc8dcc8ecc8fcc90cc91cc92cc9330413042,
    0x3043304430453046304730483049304a304b304c304d304e304f305030513052,
    0x3053305430553056305730583059305a305b305c305d305e305f306030613062,
    0x3063306430653066306730683069306a306b306c306d306e306f307030713072,
    0x3073307430753076307730783079307a307b307c307d307e307f308030813082,
    0x3083308430853086308730883089308a308b308c308d308e308f309030913092,
    0x309300000000000000000000000000000000000000000000cc94cc95cc96cc97,
    0xcc9acc9bcc9dcc9ecc9fcca1cca2cca3cca4cca5cca6cca7ccaaccaeccafccb0,
    0xccb1ccb2ccb3ccb6ccb7ccb9000000000000000000000000ccbaccbbccbdccbe,
    0xccbfccc0ccc1ccc2ccc3ccc6ccc8cccacccbcccccccdcccecccfccd1ccd2ccd3,
    0xccd5ccd6ccd7ccd8ccd9ccda000000000000000000000000ccdbccdcccddccde,
    0xccdfcce0cce1cce2cce3cce5cce6cce7cce8cce9cceaccebccedcceeccefccf1,
    0xccf2ccf3ccf4ccf5ccf6ccf7ccf8ccf9ccfaccfbccfcccfd30a130a230a330a4,
    0x30a530a630a730a830a930aa30ab30ac30ad30ae30af30b030b130b230b330b4,
    0x30b530b630b730b830b930ba30bb30bc30bd30be30bf30c030c130c230c330c4,
    0x30c530c630c730c830c930ca30cb30cc30cd30ce30cf30d030d130d230d330d4,
    0x30d530d630d730d830d930da30db30dc30dd30de30df30e030e130e230e330e4,
    0x30e530e630e730e830e930ea30eb30ec30ed30ee30ef30f030f130f230f330f4,
    0x30f530f600000000000000000000000000000000ccfeccffcd00cd02cd03cd04,
    0xcd05cd06cd07cd0acd0bcd0dcd0ecd0fcd11cd12cd13cd14cd15cd16cd17cd1a,
    0xcd1ccd1ecd1fcd20000000000000000000000000cd21cd22cd23cd25cd26cd27,
    0xcd29cd2acd2bcd2dcd2ecd2fcd30cd31cd32cd33cd34cd35cd36cd37cd38cd3a,
    0xcd3bcd3ccd3dcd3e000000000000000000000000cd3fcd40cd41cd42cd43cd44,
    0xcd45cd46cd47cd48cd49cd4acd4bcd4ccd4dcd4ecd4fcd50cd51cd52cd53cd54,
    0xcd55cd56cd57cd58cd59cd5acd5bcd5dcd5ecd5f041004110412041304140415,
    0x04010416041704180419041a041b041c041d041e041f04200421042204230424,
    0x04250426042704280429042a042b042c042d042e042f00000000000000000000,
    0x0000000000000000000000000000000000000000043004310432043304340435,
    0x04510436043704380439043a043b043c043d043e043f04400441044204430444,
    0x04450446044704480449044a044b044c044d044e044f00000000000000000000,
    0x00000000000000000000000000000000cd61cd62cd63cd65cd66cd67cd68cd69,
    0xcd6acd6bcd6ecd70cd72cd73cd74cd75cd76cd77cd79cd7acd7bcd7ccd7dcd7e,
    0xcd7fcd80000000000000000000000000cd81cd82cd83cd84cd85cd86cd87cd89,
    0xcd8acd8bcd8ccd8dcd8ecd8fcd90cd91cd92cd93cd96cd97cd99cd9acd9bcd9d,
    0xcd9ecd9f000000000000000000000000cda0cda1cda2cda3cda6cda8cdaacdab,
    0xcdaccdadcdaecdafcdb1cdb2cdb3cdb4cdb5cdb6cdb7cdb8cdb9cdbacdbbcdbc,
    0xcdbdcdbecdbfcdc0cdc1cdc2cdc3cdc500000000000000000000000000000000,
    0,
    0,
    0,
    0,
    0,
    0x000000000000000000000000cdc6cdc7cdc8cdc9cdcacdcbcdcdcdcecdcfcdd1,
    0xcdd2cdd3cdd4cdd5cdd6cdd7cdd8cdd9cddacddbcddccdddcddecddfcde0cde1,
    0x000000000000000000000000cde2cde3cde4cde5cde6cde7cde9cdeacdebcded,
    0xcdeecdefcdf1cdf2cdf3cdf4cdf5cdf6cdf7cdfacdfccdfecdffce00ce01ce02,
    0x000000000000000000000000ce03ce05ce06ce07ce09ce0ace0bce0dce0ece0f,
    0xce10ce11ce12ce13ce15ce16ce17ce18ce1ace1bce1cce1dce1ece1fce22ce23,
    0xce25ce26ce27ce29ce2ace2b0000000000000000000000000000000000000000,
    0,
    0,
    0,
    0,
    0,
    0x0000000000000000ce2cce2dce2ece2fce32ce34ce36ce37ce38ce39ce3ace3b,
    0xce3cce3dce3ece3fce40ce41ce42ce43ce44ce45ce46ce47ce48ce4900000000,
    0x0000000000000000ce4ace4bce4cce4dce4ece4fce50ce51ce52ce53ce54ce55,
    0xce56ce57ce5ace5bce5dce5ece62ce63ce64ce65ce66ce67ce6ace6c00000000,
    0x0000000000000000ce6ece6fce70ce71ce72ce73ce76ce77ce79ce7ace7bce7d,
    0xce7ece7fce80ce81ce82ce83ce86ce88ce8ace8bce8cce8dce8ece8fce92ce93,
    0xce95ce96ce97ce99000000000000000000000000000000000000000000000000,
    0,
    0,
    0,
    0,
    0,
    0x00000000ce9ace9bce9cce9dce9ece9fcea2cea6cea7cea8cea9ceaaceabceae,
    0xceafceb0ceb1ceb2ceb3ceb4ceb5ceb6ceb7ceb8ceb9ceba0000000000000000,
    0x00000000cebbcebccebdcebecebfcec0cec2cec3cec4cec5cec6cec7cec8cec9,
    0xcecacecbcecccecdcecececfced0ced1ced2ced3ced4ced50000000000000000,
    0x00000000ced6ced7ced8ced9cedacedbcedcceddcedecedfcee0cee1cee2cee3,
    0xcee6cee7cee9ceeaceedceeeceefcef0cef1cef2cef3cef6cefacefbcefccefd,
    0xcefeceffac00ac01ac04ac07ac08ac09ac0aac10ac11ac12ac13ac14ac15ac16,
    0xac17ac19ac1aac1bac1cac1dac20ac24ac2cac2dac2fac30ac31ac38ac39ac3c,
    0xac40ac4bac4dac54ac58ac5cac70ac71ac74ac77ac78ac7aac80ac81ac83ac84,
    0xac85ac86ac89ac8aac8bac8cac90ac94ac9cac9dac9faca0aca1aca8aca9acaa,
    0xacacacafacb0acb8acb9acbbacbcacbdacc1acc4acc8acccacd5acd7ace0ace1,
    0xace4ace7ace8aceaacecacefacf0acf1acf3acf5acf6acfcacfdad00ad04ad06,
    0xcf02cf03cf05cf06cf07cf09cf0acf0bcf0ccf0dcf0ecf0fcf12cf14cf16cf17,
    0xcf18cf19cf1acf1bcf1dcf1ecf1fcf21cf22cf23000000000000000000000000,
    0xcf25cf26cf27cf28cf29cf2acf2bcf2ecf32cf33cf34cf35cf36cf37cf39cf3a,
    0xcf3bcf3ccf3dcf3ecf3fcf40cf41cf42cf43cf44000000000000000000000000,
    0xcf45cf46cf47cf48cf49cf4acf4bcf4ccf4dcf4ecf4fcf50cf51cf52cf53cf56,
    0xcf57cf59cf5acf5bcf5dcf5ecf5fcf60cf61cf62cf63cf66cf68cf6acf6bcf6c,
    0xad0cad0dad0fad11ad18ad1cad20ad29ad2cad2dad34ad35ad38ad3cad44ad45,
    0xad47ad49ad50ad54ad58ad61ad63ad6cad6dad70ad73ad74ad75ad76ad7bad7c,
    0xad7dad7fad81ad82ad88ad89ad8cad90ad9cad9dada4adb7adc0adc1adc4adc8,
    0xadd0add1add3addcade0ade4adf8adf9adfcadffae00ae01ae08ae09ae0bae0d,
    0xae14ae30ae31ae34ae37ae38ae3aae40ae41ae43ae45ae46ae4aae4cae4dae4e,
    0xae50ae54ae56ae5cae5dae5fae60ae61ae65ae68ae69ae6cae70ae78cf6dcf6e,
    0xcf6fcf72cf73cf75cf76cf77cf79cf7acf7bcf7ccf7dcf7ecf7fcf81cf82cf83,
    0xcf84cf86cf87cf88cf89cf8acf8bcf8d000000000000000000000000cf8ecf8f,
    0xcf90cf91cf92cf93cf94cf95cf96cf97cf98cf99cf9acf9bcf9ccf9dcf9ecf9f,
    0xcfa0cfa2cfa3cfa4cfa5cfa6cfa7cfa9000000000000000000000000cfaacfab,
    0xcfaccfadcfaecfafcfb1cfb2cfb3cfb4cfb5cfb6cfb7cfb8cfb9cfbacfbbcfbc,
    0xcfbdcfbecfbfcfc0cfc1cfc2cfc3cfc5cfc6cfc7cfc8cfc9cfcacfcbae79ae7b,
    0xae7cae7dae84ae85ae8caebcaebdaebeaec0aec4aeccaecdaecfaed0aed1aed8,
    0xaed9aedcaee8aeebaeedaef4aef8aefcaf07af08af0daf10af2caf2daf30af32,
    0xaf34af3caf3daf3faf41af42af43af48af49af50af5caf5daf64af65af79af80,
    0xaf84af88af90af91af95af9cafb8afb9afbcafc0afc7afc8afc9afcbafcdafce,
    0xafd4afdcafe8afe9aff0aff1aff4aff8b000b001b004b00cb010b014b01cb01d,
    0xb028b044b045b048b04ab04cb04eb053b054b055b057b059cfcccfcdcfcecfcf,
    0xcfd0cfd1cfd2cfd3cfd4cfd5cfd6cfd7cfd8cfd9cfdacfdbcfdccfddcfdecfdf,
    0xcfe2cfe3cfe5cfe6cfe7cfe9000000000000000000000000cfeacfebcfeccfed,
    0xcfeecfefcff2cff4cff6cff7cff8cff9cffacffbcffdcffecfffd001d002d003,
    0xd005d006d007d008d009d00a000000000000000000000000d00bd00cd00dd00e,
    0xd00fd010d012d013d014d015d016d017d019d01ad01bd01cd01dd01ed01fd020,
    0xd021d022d023d024d025d026d027d028d029d02ad02bd02cb05db07cb07db080,
    0xb084b08cb08db08fb091b098b099b09ab09cb09fb0a0b0a1b0a2b0a8b0a9b0ab,
    0xb0acb0adb0aeb0afb0b1b0b3b0b4b0b5b0b8b0bcb0c4b0c5b0c7b0c8b0c9b0d0,
    0xb0d1b0d4b0d8b0e0b0e5b108b109b10bb10cb110b112b113b118b119b11bb11c,
    0xb11db123b124b125b128b12cb134b135b137b138b139b140b141b144b148b150,
    0xb151b154b155b158b15cb160b178b179b17cb180b182b188b189b18bb18db192,
    0xb193b194b198b19cb1a8b1ccb1d0b1d4b1dcb1ddd02ed02fd030d031d032d033,
    0xd036d037d039d03ad03bd03dd03ed03fd040d041d042d043d046d048d04ad04b,
    0xd04cd04dd04ed04f000000000000000000000000d051d052d053d055d056d057,
    0xd059d05ad05bd05cd05dd05ed05fd061d062d063d064d065d066d067d068d069,
    0xd06ad06bd06ed06f000000000000000000000000d071d072d073d075d076d077,
    0xd078d079d07ad07bd07ed07fd080d082d083d084d085d086d087d088d089d08a,
    0xd08bd08cd08dd08ed08fd090d091d092d093d094b1dfb1e8b1e9b1ecb1f0b1f9,
    0xb1fbb1fdb204b205b208b20bb20cb214b215b217b219b220b234b23cb258b25c,
    0xb260b268b269b274b275b27cb284b285b289b290b291b294b298b299b29ab2a0,
    0xb2a1b2a3b2a5b2a6b2aab2acb2b0b2b4b2c8b2c9b2ccb2d0b2d2b2d8b2d9b2db,
    0xb2ddb2e2b2e4b2e5b2e6b2e8b2ebb2ecb2edb2eeb2efb2f3b2f4b2f5b2f7b2f8,
    0xb2f9b2fab2fbb2ffb300b301b304b308b310b311b313b314b315b31cb354b355,
    0xb356b358b35bb35cb35eb35fb364b365d095d096d097d098d099d09ad09bd09c,
    0xd09dd09ed09fd0a0d0a1d0a2d0a3d0a6d0a7d0a9d0aad0abd0add0aed0afd0b0,
    0xd0b1d0b2000000000000000000000000d0b3d0b6d0b8d0bad0bbd0bcd0bdd0be,
    0xd0bfd0c2d0c3d0c5d0c6d0c7d0cad0cbd0ccd0cdd0ced0cfd0d2d0d6d0d7d0d8,
    0xd0d9d0da000000000000000000000000d0dbd0ded0dfd0e1d0e2d0e3d0e5d0e6,
    0xd0e7d0e8d0e9d0ead0ebd0eed0f2d0f3d0f4d0f5d0f6d0f7d0f9d0fad0fbd0fc,
    0xd0fdd0fed0ffd100d101d102d103d104b367b369b36bb36eb370b371b374b378,
    0xb380b381b383b384b385b38cb390b394b3a0b3a1b3a8b3acb3c4b3c5b3c8b3cb,
    0xb3ccb3ceb3d0b3d4b3d5b3d7b3d9b3dbb3ddb3e0b3e4b3e8b3fcb410b418b41c,
    0xb420b428b429b42bb434b450b451b454b458b460b461b463b465b46cb480b488,
    0xb49db4a4b4a8b4acb4b5b4b7b4b9b4c0b4c4b4c8b4d0b4d5b4dcb4ddb4e0b4e3,
    0xb4e4b4e6b4ecb4edb4efb4f1b4f8b514b515b518b51bb51cb524b525b527b528,
    0xb529b52ab530b531b534b538d105d106d107d108d109d10ad10bd10cd10ed10f,
    0xd110d111d112d113d114d115d116d117d118d119d11ad11bd11cd11dd11ed11f,
    0x000000000000000000000000d120d121d122d123d124d125d126d127d128d129,
    0xd12ad12bd12cd12dd12ed12fd132d133d135d136d137d139d13bd13cd13dd13e,
    0x000000000000000000000000d13fd142d146d147d148d149d14ad14bd14ed14f,
    0xd151d152d153d155d156d157d158d159d15ad15bd15ed160d162d163d164d165,
    0xd166d167d169d16ad16bd16db540b541b543b544b545b54bb54cb54db550b554,
    0xb55cb55db55fb560b561b5a0b5a1b5a4b5a8b5aab5abb5b0b5b1b5b3b5b4b5b5,
    0xb5bbb5bcb5bdb5c0b5c4b5ccb5cdb5cfb5d0b5d1b5d8b5ecb610b611b614b618,
    0xb625b62cb634b648b664b668b69cb69db6a0b6a4b6abb6acb6b1b6d4b6f0b6f4,
    0xb6f8b700b701b705b728b729b72cb72fb730b738b739b73bb744b748b74cb754,
    0xb755b760b764b768b770b771b773b775b77cb77db780b784b78cb78db78fb790,
    0xb791b792b796b797d16ed16fd170d171d172d173d174d175d176d177d178d179,
    0xd17ad17bd17dd17ed17fd180d181d182d183d185d186d187d189d18a00000000,
    0x0000000000000000d18bd18cd18dd18ed18fd190d191d192d193d194d195d196,
    0xd197d198d199d19ad19bd19cd19dd19ed19fd1a2d1a3d1a5d1a6d1a700000000,
    0x0000000000000000d1a9d1aad1abd1acd1add1aed1afd1b2d1b4d1b6d1b7d1b8,
    0xd1b9d1bbd1bdd1bed1bfd1c1d1c2d1c3d1c4d1c5d1c6d1c7d1c8d1c9d1cad1cb,
    0xd1ccd1cdd1ced1cfb798b799b79cb7a0b7a8b7a9b7abb7acb7adb7b4b7b5b7b8,
    0xb7c7b7c9b7ecb7edb7f0b7f4b7fcb7fdb7ffb800b801b807b808b809b80cb810,
    0xb818b819b81bb81db824b825b828b82cb834b835b837b838b839b840b844b851,
    0xb853b85cb85db860b864b86cb86db86fb871b878b87cb88db8a8b8b0b8b4b8b8,
    0xb8c0b8c1b8c3b8c5b8ccb8d0b8d4b8ddb8dfb8e1b8e8b8e9b8ecb8f0b8f8b8f9,
    0xb8fbb8fdb904b918b920b93cb93db940b944b94cb94fb951b958b959b95cb960,
    0xb968b969d1d0d1d1d1d2d1d3d1d4d1d5d1d6d1d7d1d9d1dad1dbd1dcd1ddd1de,
    0xd1dfd1e0d1e1d1e2d1e3d1e4d1e5d1e6d1e7d1e8d1e9d1ea0000000000000000,
    0x00000000d1ebd1ecd1edd1eed1efd1f0d1f1d1f2d1f3d1f5d1f6d1f7d1f9d1fa,
    0xd1fbd1fcd1fdd1fed1ffd200d201d202d203d204d205d2060000000000000000,
    0x00000000d208d20ad20bd20cd20dd20ed20fd211d212d213d214d215d216d217,
    0xd218d219d21ad21bd21cd21dd21ed21fd220d221d222d223d224d225d226d227,
    0xd228d229b96bb96db974b975b978b97cb984b985b987b989b98ab98db98eb9ac,
    0xb9adb9b0b9b4b9bcb9bdb9bfb9c1b9c8b9c9b9ccb9ceb9cfb9d0b9d1b9d2b9d8,
    0xb9d9b9dbb9ddb9deb9e1b9e3b9e4b9e5b9e8b9ecb9f4b9f5b9f7b9f8b9f9b9fa,
    0xba00ba01ba08ba15ba38ba39ba3cba40ba42ba48ba49ba4bba4dba4eba53ba54,
    0xba55ba58ba5cba64ba65ba67ba68ba69ba70ba71ba74ba78ba83ba84ba85ba87,
    0xba8cbaa8baa9baabbaacbab0bab2bab8bab9babbbabdbac4bac8bad8bad9bafc,
    0xd22ad22bd22ed22fd231d232d233d235d236d237d238d239d23ad23bd23ed240,
    0xd242d243d244d245d246d247d249d24ad24bd24c000000000000000000000000,
    0xd24dd24ed24fd250d251d252d253d254d255d256d257d258d259d25ad25bd25d,
    0xd25ed25fd260d261d262d263d265d266d267d268000000000000000000000000,
    0xd269d26ad26bd26cd26dd26ed26fd270d271d272d273d274d275d276d277d278,
    0xd279d27ad27bd27cd27dd27ed27fd282d283d285d286d287d289d28ad28bd28c,
    0xbb00bb04bb0dbb0fbb11bb18bb1cbb20bb29bb2bbb34bb35bb36bb38bb3bbb3c,
    0xbb3dbb3ebb44bb45bb47bb49bb4dbb4fbb50bb54bb58bb61bb63bb6cbb88bb8c,
    0xbb90bba4bba8bbacbbb4bbb7bbc0bbc4bbc8bbd0bbd3bbf8bbf9bbfcbbffbc00,
    0xbc02bc08bc09bc0bbc0cbc0dbc0fbc11bc14bc15bc16bc17bc18bc1bbc1cbc1d,
    0xbc1ebc1fbc24bc25bc27bc29bc2dbc30bc31bc34bc38bc40bc41bc43bc44bc45,
    0xbc49bc4cbc4dbc50bc5dbc84bc85bc88bc8bbc8cbc8ebc94bc95bc97d28dd28e,
    0xd28fd292d293d294d296d297d298d299d29ad29bd29dd29ed29fd2a1d2a2d2a3,
    0xd2a5d2a6d2a7d2a8d2a9d2aad2abd2ad000000000000000000000000d2aed2af,
    0xd2b0d2b2d2b3d2b4d2b5d2b6d2b7d2bad2bbd2bdd2bed2c1d2c3d2c4d2c5d2c6,
    0xd2c7d2cad2ccd2cdd2ced2cfd2d0d2d1000000000000000000000000d2d2d2d3,
    0xd2d5d2d6d2d7d2d9d2dad2dbd2ddd2ded2dfd2e0d2e1d2e2d2e3d2e6d2e7d2e8,
    0xd2e9d2ead2ebd2ecd2edd2eed2efd2f2d2f3d2f5d2f6d2f7d2f9d2fabc99bc9a,
    0xbca0bca1bca4bca7bca8bcb0bcb1bcb3bcb4bcb5bcbcbcbdbcc0bcc4bccdbccf,
    0xbcd0bcd1bcd5bcd8bcdcbcf4bcf5bcf6bcf8bcfcbd04bd05bd07bd09bd10bd14,
    0xbd24bd2cbd40bd48bd49bd4cbd50bd58bd59bd64bd68bd80bd81bd84bd87bd88,
    0xbd89bd8abd90bd91bd93bd95bd99bd9abd9cbda4bdb0bdb8bdd4bdd5bdd8bddc,
    0xbde9bdf0bdf4bdf8be00be03be05be0cbe0dbe10be14be1cbe1dbe1fbe44be45,
    0xbe48be4cbe4ebe54be55be57be59be5abe5bbe60be61be64d2fbd2fcd2fdd2fe,
    0xd2ffd302d304d306d307d308d309d30ad30bd30fd311d312d313d315d317d318,
    0xd319d31ad31bd31ed322d323000000000000000000000000d324d326d327d32a,
    0xd32bd32dd32ed32fd331d332d333d334d335d336d337d33ad33ed33fd340d341,
    0xd342d343d346d347d348d349000000000000000000000000d34ad34bd34cd34d,
    0xd34ed34fd350d351d352d353d354d355d356d357d358d359d35ad35bd35cd35d,
    0xd35ed35fd360d361d362d363d364d365d366d367d368d369be68be6abe70be71,
    0xbe73be74be75be7bbe7cbe7dbe80be84be8cbe8dbe8fbe90be91be98be99bea8,
    0xbed0bed1bed4bed7bed8bee0bee3bee4bee5beecbf01bf08bf09bf18bf19bf1b,
    0xbf1cbf1dbf40bf41bf44bf48bf50bf51bf55bf94bfb0bfc5bfccbfcdbfd0bfd4,
    0xbfdcbfdfbfe1c03cc051c058c05cc060c068c069c090c091c094c098c0a0c0a1,
    0xc0a3c0a5c0acc0adc0afc0b0c0b3c0b4c0b5c0b6c0bcc0bdc0bfc0c0c0c1c0c5,
    0xc0c8c0c9c0ccc0d0c0d8c0d9c0dbc0dcc0ddc0e4d36ad36bd36cd36dd36ed36f,
    0xd370d371d372d373d374d375d376d377d378d379d37ad37bd37ed37fd381d382,
    0xd383d385d386d387000000000000000000000000d388d389d38ad38bd38ed392,
    0xd393d394d395d396d397d39ad39bd39dd39ed39fd3a1d3a2d3a3d3a4d3a5d3a6,
    0xd3a7d3aad3acd3ae000000000000000000000000d3afd3b0d3b1d3b2d3b3d3b5,
    0xd3b6d3b7d3b9d3bad3bbd3bdd3bed3bfd3c0d3c1d3c2d3c3d3c6d3c7d3cad3cb,
    0xd3ccd3cdd3ced3cfd3d1d3d2d3d3d3d4d3d5d3d6c0e5c0e8c0ecc0f4c0f5c0f7,
    0xc0f9c100c104c108c110c115c11cc11dc11ec11fc120c123c124c126c127c12c,
    0xc12dc12fc130c131c136c138c139c13cc140c148c149c14bc14cc14dc154c155,
    0xc158c15cc164c165c167c168c169c170c174c178c185c18cc18dc18ec190c194,
    0xc196c19cc19dc19fc1a1c1a5c1a8c1a9c1acc1b0c1bdc1c4c1c8c1ccc1d4c1d7,
    0xc1d8c1e0c1e4c1e8c1f0c1f1c1f3c1fcc1fdc200c204c20cc20dc20fc211c218,
    0xc219c21cc21fc220c228c229c22bc22dd3d7d3d9d3dad3dbd3dcd3ddd3ded3df,
    0xd3e0d3e2d3e4d3e5d3e6d3e7d3e8d3e9d3ead3ebd3eed3efd3f1d3f2d3f3d3f5,
    0xd3f6d3f7000000000000000000000000d3f8d3f9d3fad3fbd3fed400d402d403,
    0xd404d405d406d407d409d40ad40bd40cd40dd40ed40fd410d411d412d413d414,
    0xd415d416000000000000000000000000d417d418d419d41ad41bd41cd41ed41f,
    0xd420d421d422d423d424d425d426d427d428d429d42ad42bd42cd42dd42ed42f,
    0xd430d431d432d433d434d435d436d437c22fc231c232c234c248c250c251c254,
    0xc258c260c265c26cc26dc270c274c27cc27dc27fc281c288c289c290c298c29b,
    0xc29dc2a4c2a5c2a8c2acc2adc2b4c2b5c2b7c2b9c2dcc2ddc2e0c2e3c2e4c2eb,
    0xc2ecc2edc2efc2f1c2f6c2f8c2f9c2fbc2fcc300c308c309c30cc30dc313c314,
    0xc315c318c31cc324c325c328c329c345c368c369c36cc370c372c378c379c37c,
    0xc37dc384c388c38cc3c0c3d8c3d9c3dcc3dfc3e0c3e2c3e8c3e9c3edc3f4c3f5,
    0xc3f8c408c410c424c42cc430d438d439d43ad43bd43cd43dd43ed43fd441d442,
    0xd443d445d446d447d448d449d44ad44bd44cd44dd44ed44fd450d451d452d453,
    0x000000000000000000000000d454d455d456d457d458d459d45ad45bd45dd45e,
    0xd45fd461d462d463d465d466d467d468d469d46ad46bd46cd46ed470d471d472,
    0x000000000000000000000000d473d474d475d476d477d47ad47bd47dd47ed481,
    0xd483d484d485d486d487d48ad48cd48ed48fd490d491d492d493d495d496d497,
    0xd498d499d49ad49bd49cd49dc434c43cc43dc448c464c465c468c46cc474c475,
    0xc479c480c494c49cc4b8c4bcc4e9c4f0c4f1c4f4c4f8c4fac4ffc500c501c50c,
    0xc510c514c51cc528c529c52cc530c538c539c53bc53dc544c545c548c549c54a,
    0xc54cc54dc54ec553c554c555c557c558c559c55dc55ec560c561c564c568c570,
    0xc571c573c574c575c57cc57dc580c584c587c58cc58dc58fc591c595c597c598,
    0xc59cc5a0c5a9c5b4c5b5c5b8c5b9c5bbc5bcc5bdc5bec5c4c5c5c5c6c5c7c5c8,
    0xc5c9c5cac5ccc5ced49ed49fd4a0d4a1d4a2d4a3d4a4d4a5d4a6d4a7d4a8d4aa,
    0xd4abd4acd4add4aed4afd4b0d4b1d4b2d4b3d4b4d4b5d4b6d4b7d4b800000000,
    0x0000000000000000d4b9d4bad4bbd4bcd4bdd4bed4bfd4c0d4c1d4c2d4c3d4c4,
    0xd4c5d4c6d4c7d4c8d4c9d4cad4cbd4cdd4ced4cfd4d1d4d2d4d3d4d500000000,
    0x0000000000000000d4d6d4d7d4d8d4d9d4dad4dbd4ddd4ded4e0d4e1d4e2d4e3,
    0xd4e4d4e5d4e6d4e7d4e9d4ead4ebd4edd4eed4efd4f1d4f2d4f3d4f4d4f5d4f6,
    0xd4f7d4f9d4fad4fcc5d0c5d1c5d4c5d8c5e0c5e1c5e3c5e5c5ecc5edc5eec5f0,
    0xc5f4c5f6c5f7c5fcc5fdc5fec5ffc600c601c605c606c607c608c60cc610c618,
    0xc619c61bc61cc624c625c628c62cc62dc62ec630c633c634c635c637c639c63b,
    0xc640c641c644c648c650c651c653c654c655c65cc65dc660c66cc66fc671c678,
    0xc679c67cc680c688c689c68bc68dc694c695c698c69cc6a4c6a5c6a7c6a9c6b0,
    0xc6b1c6b4c6b8c6b9c6bac6c0c6c1c6c3c6c5c6ccc6cdc6d0c6d4c6dcc6ddc6e0,
    0xc6e1c6e8d4fed4ffd500d501d502d503d505d506d507d509d50ad50bd50dd50e,
    0xd50fd510d511d512d513d516d518d519d51ad51bd51cd51d0000000000000000,
    0x00000000d51ed51fd520d521d522d523d524d525d526d527d528d529d52ad52b,
    0xd52cd52dd52ed52fd530d531d532d533d534d535d536d5370000000000000000,
    0x00000000d538d539d53ad53bd53ed53fd541d542d543d545d546d547d548d549,
    0xd54ad54bd54ed550d552d553d554d555d556d557d55ad55bd55dd55ed55fd561,
    0xd562d563c6e9c6ecc6f0c6f8c6f9c6fdc704c705c708c70cc714c715c717c719,
    0xc720c721c724c728c730c731c733c735c737c73cc73dc740c744c74ac74cc74d,
    0xc74fc751c752c753c754c755c756c757c758c75cc760c768c76bc774c775c778,
    0xc77cc77dc77ec783c784c785c787c788c789c78ac78ec790c791c794c796c797,
    0xc798c79ac7a0c7a1c7a3c7a4c7a5c7a6c7acc7adc7b0c7b4c7bcc7bdc7bfc7c0,
    0xc7c1c7c8c7c9c7ccc7cec7d0c7d8c7ddc7e4c7e8c7ecc800c801c804c808c80a,
    0xd564d566d567d56ad56cd56ed56fd570d571d572d573d576d577d579d57ad57b,
    0xd57dd57ed57fd580d581d582d583d586d58ad58b000000000000000000000000,
    0xd58cd58dd58ed58fd591d592d593d594d595d596d597d598d599d59ad59bd59c,
    0xd59dd59ed59fd5a0d5a1d5a2d5a3d5a4d5a6d5a7000000000000000000000000,
    0xd5a8d5a9d5aad5abd5acd5add5aed5afd5b0d5b1d5b2d5b3d5b4d5b5d5b6d5b7,
    0xd5b8d5b9d5bad5bbd5bcd5bdd5bed5bfd5c0d5c1d5c2d5c3d5c4d5c5d5c6d5c7,
    0xc810c811c813c815c816c81cc81dc820c824c82cc82dc82fc831c838c83cc840,
    0xc848c849c84cc84dc854c870c871c874c878c87ac880c881c883c885c886c887,
    0xc88bc88cc88dc894c89dc89fc8a1c8a8c8bcc8bdc8c4c8c8c8ccc8d4c8d5c8d7,
    0xc8d9c8e0c8e1c8e4c8f5c8fcc8fdc900c904c905c906c90cc90dc90fc911c918,
    0xc92cc934c950c951c954c958c960c961c963c96cc970c974c97cc988c989c98c,
    0xc990c998c999c99bc99dc9c0c9c1c9c4c9c7c9c8c9cac9d0c9d1c9d3d5cad5cb,
    0xd5cdd5ced5cfd5d1d5d3d5d4d5d5d5d6d5d7d5dad5dcd5ded5dfd5e0d5e1d5e2,
    0xd5e3d5e6d5e7d5e9d5ead5ebd5edd5ee000000000000000000000000d5efd5f0,
    0xd5f1d5f2d5f3d5f6d5f8d5fad5fbd5fcd5fdd5fed5ffd602d603d605d606d607,
    0xd609d60ad60bd60cd60dd60ed60fd612000000000000000000000000d616d617,
    0xd618d619d61ad61bd61dd61ed61fd621d622d623d625d626d627d628d629d62a,
    0xd62bd62cd62ed62fd630d631d632d633d634d635d636d637d63ad63bc9d5c9d6,
    0xc9d9c9dac9dcc9ddc9e0c9e2c9e4c9e7c9ecc9edc9efc9f0c9f1c9f8c9f9c9fc,
    0xca00ca08ca09ca0bca0cca0dca14ca18ca29ca4cca4dca50ca54ca5cca5dca5f,
    0xca60ca61ca68ca7dca84ca98cabccabdcac0cac4cacccacdcacfcad1cad3cad8,
    0xcad9cae0caeccaf4cb08cb10cb14cb18cb20cb21cb41cb48cb49cb4ccb50cb58,
    0xcb59cb5dcb64cb78cb79cb9ccbb8cbd4cbe4cbe7cbe9cc0ccc0dcc10cc14cc1c,
    0xcc1dcc21cc22cc27cc28cc29cc2ccc2ecc30cc38cc39cc3bd63dd63ed63fd641,
    0xd642d643d644d646d647d64ad64cd64ed64fd650d652d653d656d657d659d65a,
    0xd65bd65dd65ed65fd660d661000000000000000000000000d662d663d664d665,
    0xd666d668d66ad66bd66cd66dd66ed66fd672d673d675d676d677d678d679d67a,
    0xd67bd67cd67dd67ed67fd680000000000000000000000000d681d682d684d686,
    0xd687d688d689d68ad68bd68ed68fd691d692d693d695d696d697d698d699d69a,
    0xd69bd69cd69ed6a0d6a2d6a3d6a4d6a5d6a6d6a7d6a9d6aacc3ccc3dcc3ecc44,
    0xcc45cc48cc4ccc54cc55cc57cc58cc59cc60cc64cc66cc68cc70cc75cc98cc99,
    0xcc9ccca0cca8cca9ccabccacccadccb4ccb5ccb8ccbcccc4ccc5ccc7ccc9ccd0,
    0xccd4cce4ccecccf0cd01cd08cd09cd0ccd10cd18cd19cd1bcd1dcd24cd28cd2c,
    0xcd39cd5ccd60cd64cd6ccd6dcd6fcd71cd78cd88cd94cd95cd98cd9ccda4cda5,
    0xcda7cda9cdb0cdc4cdcccdd0cde8cdeccdf0cdf8cdf9cdfbcdfdce04ce08ce0c,
    0xce14ce19ce20ce21ce24ce28ce30ce31ce33ce35d6abd6add6aed6afd6b1d6b2,
    0xd6b3d6b4d6b5d6b6d6b7d6b8d6bad6bcd6bdd6bed6bfd6c0d6c1d6c2d6c3d6c6,
    0xd6c7d6c9d6cad6cb000000000000000000000000d6cdd6ced6cfd6d0d6d2d6d3,
    0xd6d5d6d6d6d8d6dad6dbd6dcd6ddd6ded6dfd6e1d6e2d6e3d6e5d6e6d6e7d6e9,
    0xd6ead6ebd6ecd6ed000000000000000000000000d6eed6efd6f1d6f2d6f3d6f4,
    0xd6f6d6f7d6f8d6f9d6fad6fbd6fed6ffd701d702d703d705d706d707d708d709,
    0xd70ad70bd70cd70dd70ed70fd710d712d713d714ce58ce59ce5cce5fce60ce61,
    0xce68ce69ce6bce6dce74ce75ce78ce7cce84ce85ce87ce89ce90ce91ce94ce98,
    0xcea0cea1cea3cea4cea5ceacceadcec1cee4cee5cee8ceebceeccef4cef5cef7,
    0xcef8cef9cf00cf01cf04cf08cf10cf11cf13cf15cf1ccf20cf24cf2ccf2dcf2f,
    0xcf30cf31cf38cf54cf55cf58cf5ccf64cf65cf67cf69cf70cf71cf74cf78cf80,
    0xcf85cf8ccfa1cfa8cfb0cfc4cfe0cfe1cfe4cfe8cff0cff1cff3cff5cffcd000,
    0xd004d011d018d02dd034d035d038d03cd715d716d717d71ad71bd71dd71ed71f,
    0xd721d722d723d724d725d726d727d72ad72cd72ed72fd730d731d732d733d736,
    0xd737d739000000000000000000000000d73ad73bd73dd73ed73fd740d741d742,
    0xd743d745d746d748d74ad74bd74cd74dd74ed74fd752d753d755d75ad75bd75c,
    0xd75dd75e000000000000000000000000d75fd762d764d766d767d768d76ad76b,
    0xd76dd76ed76fd771d772d773d775d776d777d778d779d77ad77bd77ed77fd780,
    0xd782d783d784d785d786d787d78ad78bd044d045d047d049d050d054d058d060,
    0xd06cd06dd070d074d07cd07dd081d0a4d0a5d0a8d0acd0b4d0b5d0b7d0b9d0c0,
    0xd0c1d0c4d0c8d0c9d0d0d0d1d0d3d0d4d0d5d0dcd0ddd0e0d0e4d0ecd0edd0ef,
    0xd0f0d0f1d0f8d10dd130d131d134d138d13ad140d141d143d144d145d14cd14d,
    0xd150d154d15cd15dd15fd161d168d16cd17cd184d188d1a0d1a1d1a4d1a8d1b0,
    0xd1b1d1b3d1b5d1bad1bcd1c0d1d8d1f4d1f8d207d209d210d22cd22dd230d234,
    0xd23cd23dd23fd241d248d25cd78dd78ed78fd791d792d793d794d795d796d797,
    0xd79ad79cd79ed79fd7a0d7a1d7a2d7a300000000000000000000000000000000,
    0,
    0,
    0,
    0,
    0x000000000000000000000000d264d280d281d284d288d290d291d295d29cd2a0,
    0xd2a4d2acd2b1d2b8d2b9d2bcd2bfd2c0d2c2d2c8d2c9d2cbd2d4d2d8d2dcd2e4,
    0xd2e5d2f0d2f1d2f4d2f8d300d301d303d305d30cd30dd30ed310d314d316d31c,
    0xd31dd31fd320d321d325d328d329d32cd330d338d339d33bd33cd33dd344d345,
    0xd37cd37dd380d384d38cd38dd38fd390d391d398d399d39cd3a0d3a8d3a9d3ab,
    0xd3add3b4d3b8d3bcd3c4d3c5d3c8d3c9d3d0d3d8d3e1d3e3d3ecd3edd3f0d3f4,
    0xd3fcd3fdd3ffd401000000000000000000000000000000000000000000000000,
    0,
    0,
    0,
    0,
    0,
    0x0000000000000000d408d41dd440d444d45cd460d464d46dd46fd478d479d47c,
    0xd47fd480d482d488d489d48bd48dd494d4a9d4ccd4d0d4d4d4dcd4dfd4e8d4ec,
    0xd4f0d4f8d4fbd4fdd504d508d50cd514d515d517d53cd53dd540d544d54cd54d,
    0xd54fd551d558d559d55cd560d565d568d569d56bd56dd574d575d578d57cd584,
    0xd585d587d588d589d590d5a5d5c8d5c9d5ccd5d0d5d2d5d8d5d9d5dbd5ddd5e4,
    0xd5e5d5e8d5ecd5f4d5f5d5f7d5f9d600d601d604d608d610d611d613d614d615,
    0xd61cd62000000000000000000000000000000000000000000000000000000000,
    0,
    0,
    0,
    0,
    0,
    0x00000000d624d62dd638d639d63cd640d645d648d649d64bd64dd651d654d655,
    0xd658d65cd667d669d670d671d674d683d685d68cd68dd690d694d69dd69fd6a1,
    0xd6a8d6acd6b0d6b9d6bbd6c4d6c5d6c8d6ccd6d1d6d4d6d7d6d9d6e0d6e4d6e8,
    0xd6f0d6f5d6fcd6fdd700d704d711d718d719d71cd720d728d729d72bd72dd734,
    0xd735d738d73cd744d747d749d750d751d754d756d757d758d759d760d761d763,
    0xd765d769d76cd770d774d77cd77dd781d788d789d78cd790d798d799d79bd79d,
    0,
    0,
    0,
    0,
    0,
    0,
    0,
    0,
    0,
    0,
    0,
    0,
    0,
    0,
    0,
    0,
    0,
    0x000000000000000000000000000000000000000000000000000000004f3d4f73,
    0x504750f952a053ef547554e556095ac15bb6668767b667b767ef6b4c73c275c2,
    0x7a3c82db8304885788888a368cc88dcf8efb8fe699d5523b53745404606a6164,
    0x6bbc73cf811a89ba89d295a34f83520a58be597859e65e725e7961c763c06746,
    0x67ec687f6f97764e770b78f57a087aff7c21809d826e82718aeb95934e6b559d,
    0x66f76e3478a37aed845b8910874e97a852d8574e582a5d4c611f61be62216562,
    0x67d16a446e1b751875b376e377b07d3a90af945194529f950000000000000000,
    0,
    0,
    0,
    0,
    0,
    0x00000000000000000000000000000000000000000000000053235cac753280db,
    0x92409598525b580859dc5ca15d175eb75f3a5f4a61776c5f757a75867ce07d73,
    0x7db17f8c81548221859189418b1b92fc964d9c474ecb4ef7500b51f1584f6137,
    0x613e6168653969ea6f1175a5768676d67b8782a584cbf90093a7958b55805ba2,
    0x5751f9017cb37fb991b5502853bb5c455de862d2636e64da64e76e2070ac795b,
    0x8ddd8e1ef902907d924592f84e7e4ef650655dfe5efa61066957817186548e47,
    0x93759a2b4e5e5091677068405109528d52926aa2000000000000000000000000,
    0,
    0,
    0,
    0,
    0,
    0x000000000000000000000000000000000000000077bc92109ed452ab602f8ff2,
    0x504861a963ed64ca683c6a846fc0818889a196945805727d72ac75047d797e6d,
    0x80a9898b8b7490639d5162896c7a6f547d507f3a8a23517c614a7b9d8b199257,
    0x938c4eac4fd3501e50be510652c152cd537f577058835e9a5f91617661ac64ce,
    0x656c666f66bb66f468976d87708570f1749f74a574ca75d9786c78ec7adf7af6,
    0x7d457d938015803f811b83968b668f15901593e1980398389a5a9be84fc25553,
    0x583a59515b635c4660b86212684268b000000000000000000000000000000000,
    0,
    0,
    0,
    0,
    0,
    0x0000000000000000000000000000000068e86eaa754c767878ce7a3d7cfb7e6b,
    0x7e7c8a088aa18c3f968e9dc453e453e9544a547156fa59d15b645c3b5eab62f7,
    0x65376545657266a067af69c16cbd75fc7690777e7a3f7f94800380a1818f82e6,
    0x82fd83f085c1883188b48aa5f9038f9c932e96c798679ad89f1354ed659b66f2,
    0x688f7a408c379d6056f057645d11660668b168cd6efe7428889e9be46c68f904,
    0x9aa84f9b516c5171529f5b545de56050606d62f163a7653b73d97a7a86a38ca2,
    0x978f4e325be16208679c74dc0000000000000000000000000000000000000000,
    0,
    0,
    0,
    0,
    0,
    0x00000000000000000000000079d183d38a878ab28de8904e934b98465ed369e8,
    0x85ff90edf90551a05b985bec616368fa6b3e704c742f74d87ba17f5083c589c0,
    0x8cab95dc9928522e605d62ec90024f8a5149532158d95ee366e06d38709a72c2,
    0x73d67b5080f1945b5366639b7f6b4e565080584a58de602a612762d069d09b41,
    0x5b8f7d1880b18f5f4ea450d154ac55ac5b0c5da05de7652a654e68216a4b72e1,
    0x768e77ef7d5e7ff981a0854e86df8f038f4e90ca99039a559bab4e184e454e5d,
    0x4ec74ff1517752fe000000000000000000000000000000000000000000000000,
    0,
    0,
    0,
    0,
    0,
    0x0000000000000000534053e353e5548e5614577557a25bc75d875ed061fc62d8,
    0x655167b867e969cb6b506bc66bec6c426e9d707872d77396740377bf77e97a76,
    0x7d7f800981fc8205820a82df88628b338cfc8ec0901190b1926492b699d29a45,
    0x9ce99dd79f9c570b5c4083ca97a097ab9eb4541b7a987fa488d98ecd90e15800,
    0x5c4863987a9f5bae5f137a797aae828e8eac5026523852f85377570862f36372,
    0x6b0a6dc3773753a5735785688e7695d5673a6ac36f708a6d8ecc994bf9066677,
    0x6b788cb400000000000000000000000000000000000000000000000000000000,
    0,
    0,
    0,
    0,
    0,
    0x000000009b3cf90753eb572d594e63c669fb73ea78457aba7ac57cfe8475898f,
    0x8d73903595a852fb574775477b6083cc921ef9086a58514b524b5287621f68d8,
    0x6975969950c552a452e461c365a4683969ff747e7b4b82b983eb89b28b398fd1,
    0x9949f9094eca599764d266116a8e7434798179bd82a9887e887f895ff90a9326,
    0x4f0b53ca602562716c727d1a7d664e98516277dc80af4f014f0e5176518055dc,
    0x5668573b57fa57fc5914594759935bc45c905d0e5df15e7e5fcc628065d765e3,
    0,
    0,
    0,
    0,
    0,
    0,
    0x671e671f675e68cb68c46a5f6b3a6c236c7d6c826dc773987426742a748274a3,
    0x7578757f788178ef794179477948797a7b957d007dba7f888006802d808c8a18,
    0x8b4f8c488d779321932498e299519a0e9a0f9a659e927dca4f76540962ee6854,
    0x91d155ab513af90bf90c5a1c61e6f90d62cf62fff90ef90ff910f911f912f913,
    0x90a3f914f915f916f917f9188afef919f91af91bf91c6696f91d7156f91ef91f,
    0x96e3f920634f637a5357f921678f69606e73f9227537f923f924f92500000000,
    0,
    0,
    0,
    0,
    0,
    0x000000000000000000000000000000000000000000000000000000007d0df926,
    0xf927887256ca5a18f928f929f92af92bf92c4e43f92d5167594867f08010f92e,
    0x59735e74649a79ca5ff5606c62c8637b5be75bd752aaf92f59745f296012f930,
    0xf931f9327459f933f934f935f936f937f93899d1f939f93af93bf93cf93df93e,
    0xf93ff940f941f942f9436fc3f944f94581bf8fb260f1f946f9478166f948f949,
    0x5c3ff94af94bf94cf94df94ef94ff950f9515ae98a25677b7d10f952f953f954,
    0xf955f956f95780fdf958f9595c3c6ce5533f6eba591a83360000000000000000,
    0,
    0,
    0,
    0,
    0,
    0x0000000000000000000000000000000000000000000000004e394eb64f4655ae,
    0x571858c75f5665b765e66a806bb56e4d77ed7aef7c1e7dde86cb88929132935b,
    0x64bb6fbe737a75b890545556574d61ba64d466c76de16e5b6f6d6fb975f08043,
    0x81bd854189838ac78b5a931f6c9375537b548e0f905d5510580258585e626207,
    0x649e68e075767cd687b39ee84ee35788576e59275c0d5cb15e365f85623464e1,
    0x73b381fa888b8cb8968a9edb5b855fb760b35012520052305716583558575c0e,
    0x5c605cf65d8b5ea65f9260bc6311638964176843000000000000000000000000,
    0,
    0,
    0,
    0,
    0,
    0x000000000000000000000000000000000000000068f96ac26dd86e216ed46fe4,
    0x71fe76dc777979b17a3b840489a98ced8df38e4890039014905390fd934d9676,
    0x97dc6bd27006725872a27368776379bf7be47e9b8b8058a960c7656665fd66be,
    0x6c8c711e71c98c5a98134e6d7a814edd51ac51cd52d5540c61a76771685068df,
    0x6d1e6f7c75bc77b37ae580f484639285515c6597675c679375d87ac78373f95a,
    0x8c469017982d5c6f81c0829a9041906f920d5f975d9d6a5971c8767b7b4985e4,
    0x8b0491279a30558761f6f95b76697f8500000000000000000000000000000000,
    0,
    0,
    0,
    0,
    0,
    0x00000000000000000000000000000000863f87ba88f8908ff95c6d1b70d973de,
    0x7d61843df95d916a99f1f95e4e8253756b046b12703e721b862d9e1e524c8fa3,
    0x5d5064e5652c6b166feb7c437e9c85cd896489bd62c981d8881f5eca67176d6a,
    0x72fc7405746f878290de4f865d0d5fa0840a51b763a075654eae5006516951c9,
    0x68816a117cae7cb17ce7826f8ad28f1b91cf4fb6513752f554425eec616e623e,
    0x65c56ada6ffe792a85dc882395ad9a629a6a9e979ece529b66c66b77701d792b,
    0x8f6297426190620065236f230000000000000000000000000000000000000000,
    0,
    0,
    0,
    0,
    0,
    0x000000000000000000000000714974897df4806f84ee8f269023934a51bd5217,
    0x52a36d0c70c888c25ec965826bae6fc27c3e73754ee44f3656f9f95f5cba5dba,
    0x601c73b27b2d7f9a7fce8046901e923496f6974898189f614f8b6fa779ae91b4,
    0x96b752def960648864c46ad36f5e7018721076e780018606865c8def8f059732,
    0x9b6f9dfa9e75788c797f7da083c993049e7f9e938ad658df5f046727702774cf,
    0x7c60807e51217028726278ca8cc28cda8cf496f74e8650da5bee5ed6659971ce,
    0x764277ad804a84fc000000000000000000000000000000000000000000000000,
    0,
    0,
    0,
    0,
    0,
    0x0000000000000000907c9b279f8d58d85a415c626a136dda6f0f763b7d2f7e37,
    0x851e893893e4964b528965d267f369b46d416e9c700f7409746075597624786b,
    0x8b2c985e516d622e96784f96502b5d196dea7db88f2a5f8b61446817f9619686,
    0x52d2808b51dc51cc695e7a1c7dbe83f196754fda52295398540f550e5c6560a7,
    0x674e68a86d6c728172f874067483f96275e27c6c7f797fb8838988cf88e191cc,
    0x91d096e29bc9541d6f7e71d0749885fa8eaa96a39c579e9f67976dcb743381e8,
    0x9716782c00000000000000000000000000000000000000000000000000000000,
    0,
    0,
    0,
    0,
    0,
    0x000000007acb7b207c926469746a75f278bc78e899ac9b549ebb5bde5e556f20,
    0x819c83ab90884e07534d5a295dd25f4e6162633d666966fc6eff6f2b7063779e,
    0x842c8513883b8f1399459c3b551c62b9672b6cab8309896a977a4ea159845fd8,
    0x5fd9671b7db27f548292832b83bd8f1e909957cb59b95a925bd06627679a6885,
    0x6bcf71647f758cb78ce390819b4581088c8a964c9a409ea55b5f6c13731b76f2,
    0x76df840c51aa8993514d519552c968c96c94770477207dbf7dec97629eb56ec5,
    0,
    0,
    0,
    0,
    0,
    0,
    0x851151a5540d547d660e669d69276e9f76bf7791831784c2879f916992989cf4,
    0x88824fae519252df59c65e3d61556478647966ae67d06a216bcd6bdb725f7261,
    0x7441773877db801782bc83058b008b288c8c67286c90726776ee77667a469da9,
    0x6b7f6c92592267268499536f589359995edf63cf663467736e3a732b7ad782d7,
    0x932852d95deb61ae61cb620a62c764ab65e069596b666bcb712173f7755d7e46,
    0x821e8302856a8aa38cbf97279d6158a89ed85011520e543b554f658700000000,
    0,
    0,
    0,
    0,
    0,
    0x000000000000000000000000000000000000000000000000000000006c767d0a,
    0x7d0b805e868a958096ef52ff6c95726954735a9a5c3e5d4b5f4c5fae672a68b6,
    0x69636e3c6e4477097c737f8e85878b0e8ff797619ef45cb760b6610d61ab654f,
    0x65fb65fc6c116cef739f73c97de195945bc6871c8b10525d535a62cd640f64b2,
    0x67346a386cca73c0749e7b947c957e1b818a823685848feb96f999c14f34534a,
    0x53cd53db62cc642c6500659169c36cee6f5873ed7554762276e476fc78d078fb,
    0x792c7d46822c87e08fd4981298ef52c362d464a56e246f510000000000000000,
    0,
    0,
    0,
    0,
    0,
    0x000000000000000000000000000000000000000000000000767c8dcb91b19262,
    0x9aee9b435023508d574a59a85c285e475f77623f653e65b965c16609678b699c,
    0x6ec278c57d2180aa8180822b82b384a1868c8a2a8b1790a696329f90500d4ff3,
    0xf96357f95f9862dc6392676f6e43711976c380cc80da88f488f589198ce08f29,
    0x914d966a4f2f4f705e1b67cf6822767d767e9b445e616a0a716971d4756af964,
    0x7e41854385e998dc4f107b4f7f7095a551e15e0668b56c3e6c4e6cdb72af7bc4,
    0x83036cd5743a50fb528858c164d86a9774a77656000000000000000000000000,
    0,
    0,
    0,
    0,
    0,
    0x000000000000000000000000000000000000000078a7861795e29739f965535e,
    0x5f018b8a8fa88faf908a522577a59c499f084e19500251755c5b5e77661e663a,
    0x67c468c570b3750175c579c97add8f2799209a084fdd582158315bf6666e6b65,
    0x6d116e7a6f7d73e4752b83e988dc89138b5c8f144f0f50d55310535c5b935fa9,
    0x670d798f8179832f8514890789868f398f3b99a59c12672c4e764ff859495c01,
    0x5cef5cf0636768d270fd71a2742b7e2b84ec8702902292d29cf34e0d4ed84fef,
    0x50855256526f5426549057e0592b5a6600000000000000000000000000000000,
    0,
    0,
    0,
    0,
    0,
    0x000000000000000000000000000000005b5a5b755bcc5e9cf9666276657765a7,
    0x6d6e6ea572367b267c3f7f3681508151819a8240829983a98a038ca08ce68cfb,
    0x8d748dba90e891dc961c964499d99ce7531752065429567458b35954596e5fff,
    0x61a4626e66106c7e711a76c67c897cde7d1b82ac8cc196f0f9674f5b5f175f7f,
    0x62c25d29670b68da787c7e439d6c4e1550995315532a535159835a625e8760b2,
    0x618a624962796590678769a76bd46bd66bd76bd86cb8f968743575fa78127891,
    0x79d579d87c837dcb7fe180a50000000000000000000000000000000000000000,
    0,
    0,
    0,
    0,
    0,
    0x000000000000000000000000813e81c283f2871a88e88ab98b6c8cbb9119975e,
    0x98db9f3b56ac5b2a5f6c658c6ab36baf6d5c6ff17015725d73ad8ca78cd3983b,
    0x61916c3780589a014e4d4e8b4e9b4ed54f3a4f3c4f7f4fdf50ff53f253f85506,
    0x55e356db58eb59625a115beb5bfa5c045df35e2b5f99601d6368659c65af67f6,
    0x67fb68ad6b7b6c996cd76e23700973457802793e7940796079c17be97d177d72,
    0x8086820d838e84d186c788df8a508a5e8b1d8cdc8d668fad90aa98fc99df9e9d,
    0x524af9696714f96a000000000000000000000000000000000000000000000000,
    0,
    0,
    0,
    0,
    0,
    0x00000000000000005098522a5c7165636c5573ca7523759d7b97849c91789730,
    0x4e7764926bba715e85a94e09f96b674968ee6e17829f8518886b63f76f819212,
    0x98af4e0a50b750cf511f554655aa56175b405c195ce05e385e8a5ea05ec260f3,
    0x68516a616e58723d724072c076f879657bb17fd488f389f48a738c618cde971c,
    0x585e74bd8cfd55c7f96c7a617d2282727272751f7525f96d7b19588558fb5dbc,
    0x5e8f5eb65f9060556292637f654d669166d966f8681668f27280745e7b6e7d6e,
    0x7dd67f7200000000000000000000000000000000000000000000000000000000,
    0,
    0,
    0,
    0,
    0,
    0x0000000080e5821285af897f8a93901d92e49ecd9f205915596d5e2d60dc6614,
    0x667367906c506dc56f5f77f378a984c691cb932b4ed950ca514855845b0b5ba3,
    0x6247657e65cb6e32717d74017444748774bf766c79aa7dda7e557fa8817a81b3,
    0x8239861a87ec8a758de3907892919425994d9bae53685c5169546cc46d296e2b,
    0x820c859b893b8a2d8aaa96ea9f67526166b96bb27e9687fe8d0d9583965d651d,
    0x6d8971eef96e57ce59d35bac602760fa6210661f665f732973f976db77017b6c,
    0,
    0,
    0,
    0,
    0,
    0,
    0x8056807281658aa091924e1652e26b726d177a057b397d30f96f8cb053ec562f,
    0x58515bb55c0f5c115de2624063836414662d68b36cbc6d886eaf701f70a471d2,
    0x7526758f758e76197b117be07c2b7d207d39852c856d86078a34900d906190b5,
    0x92b797f69a374fd75c6c675f6d917c9f7e8c8b168d16901f5b6b5dfd640d84c0,
    0x905c98e173875b8b609a677e6dde8a1f8aa69001980c5237f9707051788e9396,
    0x887091d74fee53d755fd56da578258fd5ac25b885cab5cc05e25610100000000,
    0,
    0,
    0,
    0,
    0,
    0x00000000000000000000000000000000000000000000000000000000620d624b,
    0x6388641c653665786a396b8a6c346d196f3171e772e97378740774b276267761,
    0x79c07a577aea7cb97d8f7dac7e617f9e81298331849084da85ea88968ab08b90,
    0x8f3890429083916c929692b9968b96a796a896d69700980899969ad39b1a53d4,
    0x587e59195b705bbf6dd16f5a719f742174b9808583fd5de15f875faa604265ec,
    0x6812696f6a536b896d356df373e376fe77ac7b4d7d148123821c834084f48563,
    0x8a628ac49187931e980699b4620c88538ff092655d075d270000000000000000,
    0,
    0,
    0,
    0,
    0,
    0x0000000000000000000000000000000000000000000000005d69745f819d8768,
    0x6fd562fe7fd2893689724e1e4e5850e752dd5347627f66077e698805965e4f8d,
    0x5319563659cb5aa45c385c4e5c4d5e025f11604365bd662f664267be67f4731c,
    0x77e2793a7fc5849484cd89968a668a698ae18c558c7a57f45bd45f0f606f62ed,
    0x690d6b966e5c71847bd287558b588efe98df98fe4f384f814fe1547b5a205bb8,
    0x613c65b0666871fc7533795e7d33814e81e3839885aa85ce87038a0a8eab8f9b,
    0xf9718fc559315ba45be660895be95c0b5fc36c81000000000000000000000000,
    0,
    0,
    0,
    0,
    0,
    0x0000000000000000000000000000000000000000f9726df1700b751a82af8af6,
    0x4ec05341f97396d96c0f4e9e4fc45152555e5a255ce86211725982bd83aa86fe,
    0x88598a1d963f96c599139d099d5d580a5cb35dbd5e4460e1611563e16a026e25,
    0x91029354984e9c109f775b895cb86309664f6848773c96c1978d98549b9f65a1,
    0x8b018ecb95bc55355ca95dd65eb56697764c83f495c758d362bc72ce9d284ef0,
    0x592e600f663b6b8379e79d26539354c057c35d16611b66d66daf788d827e9698,
    0x97445384627c63966db27e0a814b984d00000000000000000000000000000000,
    0,
    0,
    0,
    0,
    0,
    0x000000000000000000000000000000006afb7f4c9daf9e1a4e5f503b51b6591c,
    0x60f963f66930723a8036f97491ce5f31f975f9767d0482e5846f84bb85e58e8d,
    0xf9774f6ff978f97958e45b43605963da6518656d6698f97a694a6a236d0b7001,
    0x716c75d2760d79b37a70f97b7f8af97c8944f97d8b9391c0967df97e990a5704,
    0x5fa165bc6f01760079a68a9e99ad9b5a9f6c510461b662916a8d81c650435830,
    0x5f6671098a008afa5b7c86164ffa513c56b4594463a96df95daa696d51864e88,
    0x4f59f97ff980f9815982f9820000000000000000000000000000000000000000,
    0,
    0,
    0,
    0,
    0,
    0x000000000000000000000000f9836b5f6c5df98474b57916f985820782458339,
    0x8f3f8f5df9869918f987f988f9894ea6f98a57df5f796613f98bf98c75ab7e79,
    0x8b6ff98d90069a5b56a5582759f85a1f5bb4f98e5ef6f98ff9906350633bf991,
    0x693d6c876cbf6d8e6d936df56f14f99270df71367159f99371c371d5f994784f,
    0x786ff9957b757de3f9967e2ff997884d8edff998f999f99a925bf99b9cf6f99c,
    0xf99df99e60856d85f99f71b1f9a0f9a195b153adf9a2f9a3f9a467d3f9a5708e,
    0x71307430827682d2000000000000000000000000000000000000000000000000,
    0,
    0,
    0,
    0,
    0,
    0x0000000000000000f9a695bb9ae59e7d66c4f9a771c18449f9a8f9a9584bf9aa,
    0xf9ab5db85f71f9ac6620668e697969ae6c386cf36e366f416fda701b702f7150,
    0x71df7370f9ad745bf9ae74d476c87a4e7e93f9aff9b082f18a608fcef9b19348,
    0xf9b29719f9b3f9b44e42502af9b5520853e166f36c6d6fca730a777f7a6282ae,
    0x85dd8602f9b688d48a638b7d8c6bf9b792b3f9b8971398104e944f0d4fc950b2,
    0x5348543e543355da586258ba59675a1b5be4609ff9b961ca655665ff666468a7,
    0x6c5a6fb300000000000000000000000000000000000000000000000000000000,
    0,
    0,
    0,
    0,
    0,
    0x0000000070cf71ac73527b7d87088aa49c329f075c4b6c8373447389923a6eab,
    0x7465761f7a697e15860a514058c564c174ee751576707fc1909596cd99546e26,
    0x74e67aa97aaa81e586d987788a1b5a495b8c5b9b68a169006d6373a97413742c,
    0x78977de97feb81188155839e8c4c962e981166f05f8065fa67896c6a738b502d,
    0x5a036b6a77ee59165d6c5dcd7325754ff9baf9bb50e551f9582f592d599659da,
    0x5be5f9bcf9bd5da262d76416649364fef9be66dcf9bf6a48f9c071ff7464f9c1,
    0,
    0,
    0,
    0,
    0,
    0,
    0x7a887aaf7e477e5e80008170f9c287ef89818b209059f9c390809952617e6b32,
    0x6d747e1f89258fb14fd150ad519752c757c758895bb95eb8614269956d8c6e67,
    0x6eb6719474627528752c8073833884c98e0a939493def9c44e8e4f515076512a,
    0x53c853cb53f35b875bd35c24611a618265f4725b7397744076c27950799179b9,
    0x7d067fbd828b85d5865e8fc2904790f591ea968596e896e952d65f6765ed6631,
    0x682f715c7a3690c1980a4e91f9c56a526b9e6f907189801882b8855300000000,
    0,
    0,
    0,
    0,
    0,
    0x00000000000000000000000000000000000000000000000000000000904b9695,
    0x96f297fb851a9b314e90718a96c45143539f54e15713571257a35a9b5ac45bc3,
    0x6028613f63f46c856d396e726e907230733f745782d188818f459060f9c69662,
    0x98589d1b67088d8a925e4f4d504950de5371570d59d45a015c09617066906e2d,
    0x7232744b7def80c3840e8466853f875f885b89188b02905597cb9b4f4e734f91,
    0x5112516af9c7552f55a95b7a5ba55e7c5e7d5ebe60a060df6108610963c46538,
    0x6709f9c867d467daf9c9696169626cb96d27f9ca6e38f9cb0000000000000000,
    0,
    0,
    0,
    0,
    0,
    0x0000000000000000000000000000000000000000000000006fe173367337f9cc,
    0x745c7531f9cd7652f9cef9cf7dad81fe843888d58a988adb8aed8e308e42904a,
    0x903e907a914991c9936ef9d0f9d15809f9d26bd3808980b2f9d3f9d45141596b,
    0x5c39f9d5f9d66f6473a780e48d07f9d79217958ff9d8f9d9f9daf9db807f620e,
    0x701c7d68878df9dc57a0606961476bb78abe928096b14e59541f6deb852d9670,
    0x97f398ee63d66ce3909151dd61c981ba9df94f9d501a51005b9c610f61ff64ec,
    0x69056bc5759177e37fa98264858f87fb88638abc000000000000000000000000,
    0,
    0,
    0,
    0,
    0,
    0x00000000000000000000000000000000000000008b7091ab4e8c4ee54f0af9dd,
    0xf9de593759e8f9df5df25f1b5f5b6021f9e0f9e1f9e2f9e3723e73e5f9e47570,
    0x75cdf9e579fbf9e6800c8033808482e18351f9e7f9e88cbd8cb39087f9e9f9ea,
    0x98f4990cf9ebf9ec703776ca7fca7fcc7ffc8b1a4eba4ec152035370f9ed54bd,
    0x56e059fb5bc55f155fcd6e6ef9eef9ef7d6a8335f9f086938a8df9f1976d9777,
    0xf9f2f9f34e004f5a4f7e58f965e56ea2903893b099b94efb58ec598a59d96041,
    0xf9f4f9f57a14f9f6834f8cc35165534400000000000000000000000000000000,
    0,
    0,
    0,
    0,
    0,
    0x00000000000000000000000000000000f9f7f9f8f9f94ecd52695b5582bf4ed4,
    0x523a54a859c959ff5b505b575b5c606361486ecb7099716e738674f775b578c1,
    0x7d2b800581ea8328851785c98aee8cc796cc4f5c52fa56bc65ab6628707c70b8,
    0x72357dbd828d914c96c09d725b7168e76b986f7a76de5c9166ab6f5b7bb47c2a,
    0x883696dc4e084ed75320583458bb58ef596c5c075e335e845f35638c66b26756,
    0x6a1f6aa36b0c6f3f7246f9fa7350748b7ae07ca7817881df81e7838a846c8523,
    0x859485cf88dd8d1391ac95770000000000000000000000000000000000000000,
    0,
    0,
    0,
    0,
    0,
    0x000000000000000000000000969c518d54c957285bb0624d6750683d68936e3d,
    0x6ed3707d7e2188c18ca18f099f4b9f4e722d7b8f8acd931a4f474f4e51325480,
    0x59d05e9562b56775696e6a176cae6e1a72d9732a75bd7bb87d3582e783f98457,
    0x85f78a5b8caf8e87901990b896ce9f5f52e3540a5ae15bc2645865756ef472c4,
    0xf9fb76847a4d7b1b7c4d7e3e7fdf837b8b2b8cca8d648de18e5f8fea8ff99069,
    0x93d14f434f7a50b351685178524d526a5861587c59605c085c555edb609b6230,
    0x68136bbf6c086fb1000000000000000000000000000000000000000000000000,
    0,
    0,
    0,
    0,
    0,
    0x0000000000000000714e742075307538755176727b4c7b8b7bad7bc67e8f8a6e,
    0x8f3e8f49923f92939322942b96fb985a986b991e5207622a62986d5976647aca,
    0x7bc07d7653605cbe5e976f3870b97c9897119b8e9ede63a5647a87764e014e95,
    0x4ead505c5075544859c35b9a5e405ead5ef75f8160c5633a653f657465cc6676,
    0x667867fe69686a896b636c406dc06de86e1f6e5e701e70a1738e73fd753a775b,
    0x7887798e7a0b7a7d7cbe7d8e82478a028aea8c9e912d914a91d8926692cc9320,
    0x9706975600000000000000000000000000000000000000000000000000000000,
    0,
    0,
    0,
    0,
    0,
    0x00000000975c98029f0e52365291557c58245e1d5f1f608c63d068af6fdf796d,
    0x7b2c81cd85ba88fd8af88e44918d9664969b973d984c9f4a4fce514651cb52a9,
    0x56325f145f6b63aa64cd65e9664166fa66f9671d689d68d769fd6f156f6e7167,
    0x71e5722a74aa773a7956795a79df7a207a957c977cdf7d447e70808785fb86a4,
    0x8a548abf8d998e819020906d91e3963b96d59ce565cf7c078db393c35b585c0a,
    0x535262d9731d50275b975f9e60b0616b68d56dd9742e7a2e7d427d9c7e31816b,
    0,
    0,
    0,
    0,
    0,
    0,
    0x8e2a8e35937e94184f5057505de65ea7632b7f6a4e3b4f4f4f8f505a59dd80c4,
    0x546a546855fe594f5b995dde5eda665d673167f1682a6ce86d326e4a6f8d70b7,
    0x73e075877c4c7d027d2c7da2821f86db8a3b8a858d708e8a8f339031914e9152,
    0x944499d07af97ca54fca510151c657c85bef5cfb66596a3d6d5a6e966fec710c,
    0x756f7ae388229021907596cb99ff83014e2d4ef2884691cd537d6adb696b6c41,
    0x847a589e618e66fe62ef70dd751175c77e5284b88b498d084e4b53ea00000000,
    0,
    0,
    0,
    0,
    0,
    0x0000000000000000000000000000000000000000000000000000000054ab5730,
    0x57405fd763016307646f652f65e8667a679d67b36b626c606c9a6f2c77e57825,
    0x794979577d1980a2810281f3829d82b787188a8cf9fc8d048dbe907276f47a19,
    0x7a377e548077550755d45875632f64226649664b686d699b6b846d256eb173cd,
    0x746874a1755b75b976e1771e778b79e67e097e1d81fb852f88978a3a8cd18eeb,
    0x8fb0903293ad9663967397074f8453f159ea5ac95e19684e74c675be79e97a92,
    0x81a386ed8cea8dcc8fed659f6715f9fd57f76f577ddd8f2f0000000000000000,
    0,
    0,
    0,
    0,
    0,
    0x00000000000000000000000000000000000000000000000093f696c65fb561f2,
    0x6f844e144f98501f53c955df5d6f5dee6b216b6478cb7b9af9fe8e498eca906e,
    0x6349643e77407a84932f947f9f6a64b06faf71e674a874da7ac47c127e827cb2,
    0x7e988b9a8d0a947d9910994c52395bdf64e6672d7d2e50ed53c3587961586159,
    0x61fa65ac7ad98b928b9650095021527555315a3c5ee05f706134655e660c6636,
    0x66a269cd6ec46f32731676217a938139825983d684bc50b557f05bc05be85f69,
    0x63a178267db583dc852191c791f5518a67f57b56000000000000000000000000,
    0,
    0,
    0,
    0,
    0,
    0x00000000000000000000000000000000000000008cac51c459bb60bd8655501c,
    0xf9ff52545c3a617d621a62d364f265a56ecc7620810a8e60965f96bb4edf5343,
    0x559859295ddd64c56cc96dfa73947a7f821b85a68ce48e10907791e795e19621,
    0x97c651f854f255865fb964a46f887db48f1f8f4d943550c95c166cbe6dfb751b,
    0x77bb7c3d7c648a798ac2581e59be5e1663777252758a776b8adc8cbc8f125ef3,
    0x66746df8807d83c18acb97519bd6fa00524366ff6d956eef7de08ae6902e905e,
    0x9ad4521d527f54e86194628462db68a200000000000000000000000000000000,
    0,
    0,
    0,
    0,
    0,
    0x000000000000000000000000000000006912695a6a3570927126785d7901790e,
    0x79d27a0d8096827882d5834985498c828d859162918b91ae4fc356d171ed77d7,
    0x870089f85bf85fd6675190a853e2585a5bf560a4618164607e3d807085259283,
    0x64ae50ac5d146700589c62bd63a8690e69786a1e6e6b76ba79cb82bb84298acf,
    0x8da88ffd9112914b919c93109318939a96db9a369c0d4e11755c795d7afa7b51,
    0x7bc97e2e84c48e598e748ef890106625693f744351fa672e9edc51455fe06c96,
    0x87f2885d887760b481b584030000000000000000000000000000000000000000,
    0,
    0,
    0,
    0,
    0,
    0x0000000000000000000000008d0553d6543956345a365c31708a7fe0805a8106,
    0x81ed8da391899a5f9df250744ec453a060fb6e2c5c644f88502455e45cd95e5f,
    0x606568946cbb6dc471be75d475f476617a1a7a497dc77dfb7f6e81f486a98f1c,
    0x96c999b39f52524752c598ed89aa4e0367d26f064fb55be267956c886d78741b,
    0x782791dd937c87c479e47a315feb4ed654a4553e58ae59a560f0625362d66736,
    0x69558235964099b199dd502c53535544577cfa016258fa0264e2666b67dd6fc1,
    0x6fef742274388a17000000000000000000000000000000000000000000000000,
    0,
    0,
    0,
    0,
    0,
    0x000000000000000094385451560657665f48619a6b4e705870ad7dbb8a95596a,
    0x812b63a27708803d8caa5854642d69bb5b955e116e6ffa038569514c53f0592a,
    0x6020614b6b866c706cf07b1e80ce82d48dc690b098b1fa0464c76fa464916504,
    0x514e5410571f8a0e615f6876fa0575db7b527d71901a580669cc817f892a9000,
    0x98395078595759ac6295900f9b2a615d727995d657615a465df4628a64ad64fa,
    0x67776ce26d3e722c743678347f7782ad8ddb981752245742677f724874e38ca9,
    0x8fa6921100000000000000000000000000000000000000000000000000000000,
    0,
    0,
    0,
    0,
    0,
    0x00000000962a516b53ed634c4f695504609665576c9b6d7f724c72fd7a178987,
    0x8c9d5f6d6f8e70f981a8610e4fbf504f624172477bc77de87fe9904d97ad9a19,
    0x8cb6576a5e7367b0840d8a5554205b165e635ee25f0a658380ba853d9589965b,
    0x4f485305530d530f548654fa57035e036016629b62b16355fa066ce16d6675b1,
    0x783280de812f82de846184b2888d8912900b92ea98fd9b915e4566b466dd7011,
    0x7206fa074ff5527d5f6a615367536a196f0274e2796888688c7998c798c49a43,
    0,
    0,
    0,
    0,
    0,
    0,
    0x54c17a1f69538af78c4a98a899ae5f7c62ab75b276ae88ab907f964253395f3c,
    0x5fc56ccc73cc7562758b7b4682fe999d4e4f903c4e0b4f5553a6590f5ec86630,
    0x6cb37455837787668cc09050971e9c1558d15b7886508b149db45bd26068608d,
    0x65f16c576f226fa3701a7f557ff095919592965097d352728f4451fd542b54b8,
    0x5563558a6abb6db57dd88266929c96779e79540854c876d286e495a495d4965c,
    0x4ea24f0959ee5ae65df760526297676d68416c866e2f7f38809b822a00000000,
    0,
    0,
    0,
    0,
    0,
    0x00000000000000000000000000000000000000000000000000000000fa08fa09,
    0x98054ea5505554b35793595a5b695bb361c869776d77702387f989e38a728ae7,
    0x908299ed9ab852be683850165e78674f8347884c4eab541156ae73e6911597ff,
    0x9909995799995653589f865b8a3161b26af6737b8ed26b4796aa9a5759557200,
    0x8d6b97694fd45cf45f2661f8665b6ceb70ab738473b973fe7729774d7d437d62,
    0x7e2382378852fa0a8ce29249986f5b517a74884098015acc4fe05354593e5cfd,
    0x633e6d7972f98105810783a292cf98304ea851445211578b0000000000000000,
    0,
    0,
    0,
    0,
    0,
    0x0000000000000000000000000000000000000000000000005f626cc26ece7005,
    0x705070af719273e97469834a87a28861900890a293a399a8516e5f5760e06167,
    0x66b385598e4a91af978b4e4e4e92547c58d558fa597d5cb55f2762366248660a,
    0x66676beb6d696dcf6e566ef86f946fe06fe9705d72d07425745a74e07693795c,
    0x7cca7e1e80e182a6846b84bf864e865f87748b778c6a93ac9800986560d16216,
    0x91775a5a660f6df76e3e743f9b425ffd60da7b0f54c45f186c5e6cd36d2a70d8,
    0x7d0586798a0c9d3b5316548c5b056a3a706b7575000000000000000000000000,
    0,
    0,
    0,
    0,
    0,
    0x0000000000000000000000000000000000000000798d79be82b183ef8a718b41,
    0x8ca89774fa0b64f4652b78ba78bb7a6b4e38559a59505ba65e7b60a363db6b61,
    0x666568536e19716574b07d0890849a699c256d3b6ed1733e8c4195ca51f05e4c,
    0x5fa8604d60f66130614c6643664469a56cc16e5f6ec96f62714c749c76877bc1,
    0x7c27835287579051968d9ec3532f56de5efb5f8a6062609461f7666667036a9c,
    0x6dee6fae7070736a7e6a81be833486d48aa88cc4528373725b966a6b940454ee,
    0x56865b5d6548658566c9689f6d8d6dc600000000000000000000000000000000,
    0,
    0,
    0,
    0,
    0,
    0x00000000000000000000000000000000723b80b491759a4d4faf5019539a540e,
    0x543c558955c55e3f5f8c673d716673dd900552db52f3586458ce7104718f71fb,
    0x85b08a13668885a855a76684714a8431534955996bc15f595fbd63ee66897147,
    0x8af18f1d9ebe4f11643a70cb7566866760648b4e9df8514751f653086d3680f8,
    0x9ed166156b23709875d554035c797d078a166b206b3d6b46543860706d3d7fd5,
    0x820850d651de559c566b56cd59ec5b095e0c619961986231665e66e6719971b9,
    0x71ba72a779a77a007fb28a700000000000000000000000000000000000000000]

end ChunkTree.Text
